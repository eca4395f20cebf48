import Mathlib.Data.List.Chain
import SchemaTypes.Proofs.TypeScript.GuardedLines

/-!
# Where a comment ends

A comment between a slash with an asterisk and an asterisk with a slash ends at the first slash
that stands right after an asterisk; the language knows no other way to end it, and no escape. So a
text can be put into a comment if it has no such pair of characters (`StaysInside`).

A comment or a default may have the pair anywhere. The writer takes the pairs apart before it cuts
the text into lines, and none can come about later: each line is itself a guarded text, it loses
characters at its end only, and what is put before and between the lines ends in no asterisk. Hence
a documentation comment ends where it was closed, for a reader that looks for the pair as well
(`exists_inside_docText`).
-/

namespace SchemaTypes
namespace TypeScript

/-- What stands behind a comment whose opening was read. A comment that is never closed goes on to
the end of the text. -/
def afterComment : List Char → List Char
  | '*' :: '/' :: rest => rest
  | _ :: rest => afterComment rest
  | [] => []

theorem length_afterComment_le (cs : List Char) : (afterComment cs).length ≤ cs.length := by
  fun_induction afterComment cs with
  | case1 rest =>
    simp only [List.length_cons]
    omega
  | case2 c rest _ ih =>
    rw [List.length_cons]
    omega
  | case3 => exact Nat.le_refl 0

/-- Two characters in a row that do not end a comment. -/
def Continues (c d : Char) : Prop :=
  ¬ (c = '*' ∧ d = '/')

/-- A text without a pair of characters that ends a comment. -/
def StaysInside (cs : List Char) : Prop :=
  cs.IsChain Continues

theorem continues_of_ne_asterisk {c : Char} (h : c ≠ '*') (d : Char) : Continues c d :=
  fun hpair => h hpair.1

theorem continues_of_ne_slash (c : Char) {d : Char} (h : d ≠ '/') : Continues c d :=
  fun hpair => h hpair.2

/-- Behind a text that does not end in an asterisk another text may follow. -/
theorem StaysInside.append {cs ds : List Char} (hcs : StaysInside cs) (hds : StaysInside ds)
    (hlast : ∀ c ∈ cs.getLast?, c ≠ '*') : StaysInside (cs ++ ds) :=
  List.isChain_append.mpr
    ⟨hcs, hds, fun c hc d _ => continues_of_ne_asterisk (hlast c hc) d⟩

/-- Behind any text another one may follow that does not begin with a slash. -/
theorem StaysInside.append_of_head {cs ds : List Char} (hcs : StaysInside cs)
    (hds : StaysInside ds) (hhead : ∀ d ∈ ds.head?, d ≠ '/') : StaysInside (cs ++ ds) :=
  List.isChain_append.mpr
    ⟨hcs, hds, fun c _ d hd => continues_of_ne_slash c (hhead d hd)⟩

/-- A text that stays inside a comment is passed over, up to the end of the comment. -/
theorem afterComment_append {inside : List Char} (h : StaysInside inside) (rest : List Char) :
    afterComment (inside ++ '*' :: '/' :: rest) = rest := by
  induction inside with
  | nil => rfl
  | cons c inside ih =>
    have hinside := ih (List.isChain_cons.mp h).2
    rw [List.cons_append, afterComment]
    · exact hinside
    · rintro behind rfl hbehind
      cases inside with
      | nil => cases hbehind
      | cons d inside =>
        obtain ⟨rfl, -⟩ := List.cons.inj hbehind
        exact (List.isChain_cons_cons.mp h).1 ⟨rfl, rfl⟩

/-! ## Documented lines -/

/-- A guarded text holds no end of a comment. -/
theorem staysInside_guardCommentEnd (cs : List Char) : StaysInside (guardCommentEnd cs) := by
  fun_induction guardCommentEnd cs with
  | case1 cs ih =>
    have hslash : StaysInside ('/' :: guardCommentEnd cs) :=
      List.isChain_cons.mpr ⟨fun d _ => continues_of_ne_asterisk (by decide) d, ih⟩
    exact .cons_cons (continues_of_ne_slash _ (by decide))
      (.cons_cons (continues_of_ne_asterisk (by decide) _) hslash)
  | case2 c cs hpair ih =>
    refine List.isChain_cons.mpr ⟨?_, ih⟩
    rintro d hd ⟨rfl, rfl⟩
    rw [head?_guardCommentEnd, Option.mem_def, List.head?_eq_some_iff] at hd
    obtain ⟨rest, rfl⟩ := hd
    exact hpair rest rfl rfl
  | case3 => exact .nil

theorem staysInside_of_mem_docLines {text : String} {line : List Char}
    (h : line ∈ docLines text) : StaysInside line := by
  by_cases hempty : text = ""
  · rw [hempty] at h
    rw [List.mem_singleton.mp h]
    exact .nil
  · rw [docLines_of_ne_empty hempty] at h
    obtain ⟨line, -, rfl⟩ := List.mem_map.mp h
    exact staysInside_guardCommentEnd line

/-- Nothing that a member documents ends a comment. -/
theorem staysInside_of_mem_documented {comment defaultValue : Option String} {line : List Char}
    (h : line ∈ commentLines comment ++ defaultLines defaultValue) : StaysInside line := by
  have htag : StaysInside "@default ".toList := by
    simp [StaysInside, Continues]
  exact forall_mem_documented (fun _ _ => staysInside_of_mem_docLines)
    (fun _ hline => htag.append hline (by simp)) comment defaultValue line h

/-! ## Documentation comments -/

theorem staysInside_docRow {line : List Char} (h : StaysInside line) :
    StaysInside ((docRow line).toList ++ ['\n']) := by
  have hmark : StaysInside "   * ".toList := by
    simp [StaysInside, Continues]
  have hrow : StaysInside ("   * ".toList ++ line) := hmark.append h (by simp)
  rw [toList_docRow]
  obtain ⟨tail, heq, -⟩ := Text.trimEnd_append_eq Text.isBlank ("   * ".toList ++ line)
  have htrimmed : StaysInside (Text.trimEnd Text.isBlank ("   * ".toList ++ line)) :=
    List.IsChain.left_of_append (heq ▸ hrow)
  exact htrimmed.append_of_head (List.isChain_singleton _) (by simp)

theorem staysInside_docRows {lines : List (List Char)} (h : ∀ line ∈ lines, StaysInside line) :
    StaysInside (lines.flatMap fun line => (docRow line).toList ++ ['\n']) := by
  induction lines with
  | nil => exact .nil
  | cons line lines ih =>
    rw [List.forall_mem_cons] at h
    rw [List.flatMap_cons]
    exact (staysInside_docRow h.1).append (ih h.2) (by simp)

/-- The rows of a documentation comment between the first one and the last one. -/
def documentedRows (comment defaultValue : Option String) : List (List Char) :=
  (commentLines comment ++ defaultLines defaultValue).map fun line => (docRow line).toList

/-- What stands between the pair that opens a comment with these rows and the pair that closes
it. -/
def insideOf (rows : List (List Char)) : List Char :=
  "*\n".toList ++ ((rows.flatMap fun row => row ++ ['\n']) ++ "   ".toList)

theorem docText_eq_insideOf (comment defaultValue : Option String) :
    docText comment defaultValue = "  /*".toList
      ++ (insideOf (documentedRows comment defaultValue) ++ "*/\n".toList) := by
  rw [docText_eq, insideOf, documentedRows, List.flatMap_map]
  simp [closingRow]

/-- Between its opening and its closing pair a documentation comment has no other closing pair. -/
theorem staysInside_insideOf (comment defaultValue : Option String) :
    StaysInside (insideOf (documentedRows comment defaultValue)) := by
  have hrows : StaysInside ((commentLines comment ++ defaultLines defaultValue).flatMap
      fun line => (docRow line).toList ++ ['\n']) :=
    staysInside_docRows fun _ hline => staysInside_of_mem_documented hline
  have hopening : StaysInside "*\n".toList := by
    simp [StaysInside, Continues]
  have hclosing : StaysInside "   ".toList := by
    simp [StaysInside, Continues]
  rw [insideOf, documentedRows, List.flatMap_map]
  exact hopening.append (hrows.append_of_head hclosing (by simp)) (by simp)

/-- **A documentation comment ends where it was closed.** -/
theorem exists_inside_docText (comment defaultValue : Option String) :
    ∃ inside, docText comment defaultValue = "  /*".toList ++ (inside ++ "*/\n".toList) ∧
      StaysInside inside :=
  ⟨_, docText_eq_insideOf comment defaultValue, staysInside_insideOf comment defaultValue⟩

end TypeScript
end SchemaTypes

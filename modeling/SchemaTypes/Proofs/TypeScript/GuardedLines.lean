import SchemaTypes.Proofs.Text.LinesOf
import SchemaTypes.Proofs.Text.Replace
import SchemaTypes.Proofs.TypeScript.DocBlock

/-!
# The lines of a guarded text

Before a text is documented, the ends of comments in it are taken apart, and then it is cut into
lines. The other order gives the same lines (`lines_guardCommentEnd`): an asterisk and a slash that
stand together are on one line, and what comes between them is no end of a line either. So each
documented line can be looked at by itself.
-/

namespace SchemaTypes
namespace TypeScript

open Text (LinesOf replaceAll)

section Guarded

variable {cs ds : List Char}

/-- A guarded text begins as the text does. -/
theorem head?_guardCommentEnd (cs : List Char) : (guardCommentEnd cs).head? = cs.head? := by
  fun_cases guardCommentEnd cs <;> rfl

/-- Ends of comments are taken apart by replacing them, wherever they stand. -/
theorem guardCommentEnd_eq_replaceAll (cs : List Char) :
    guardCommentEnd cs = replaceAll ['*', '/'] ['*', '\\', '/'] cs := by
  fun_induction guardCommentEnd cs with
  | case1 cs ih =>
    rw [replaceAll, if_pos (by simp), ih]
    rfl
  | case2 c cs hpair ih =>
    rw [replaceAll, if_neg, ih]
    rw [List.isPrefixOf_iff_prefix]
    rintro ⟨rest, hrest⟩
    obtain ⟨hc, hcs⟩ := List.cons.inj hrest
    exact hpair rest hc.symm hcs.symm
  | case3 => rw [replaceAll]

/-- In front of a text that does not begin with a slash, a text is guarded by itself. -/
theorem guardCommentEnd_append (h : ∀ d ∈ ds.head?, d ≠ '/') :
    guardCommentEnd (cs ++ ds) = guardCommentEnd cs ++ guardCommentEnd ds := by
  fun_induction guardCommentEnd cs with
  | case1 cs ih =>
    rw [List.cons_append, List.cons_append, guardCommentEnd, ih]
    rfl
  | case2 c cs hpair ih =>
    rw [List.cons_append, guardCommentEnd, ih, List.cons_append]
    rintro rest rfl hrest
    cases cs with
    | nil =>
      rw [List.nil_append] at hrest
      exact h '/' (hrest ▸ rfl) rfl
    | cons d cs =>
      obtain ⟨rfl, -⟩ := List.cons.inj hrest
      exact hpair cs rfl rfl
  | case3 => rfl

/-- Text without asterisks in front is left as it is. -/
theorem guardCommentEnd_append_of_notMem (h : '*' ∉ cs) :
    guardCommentEnd (cs ++ ds) = cs ++ guardCommentEnd ds := by
  induction cs with
  | nil => rfl
  | cons c cs ih =>
    rw [List.mem_cons, not_or] at h
    rw [List.cons_append, guardCommentEnd, ih h.2, List.cons_append]
    rintro _ rfl
    exact absurd rfl h.1

theorem mem_guardCommentEnd {c : Char} (h : c ∈ guardCommentEnd cs) : c ∈ cs ∨ c = '\\' := by
  fun_induction guardCommentEnd cs with
  | case1 cs ih =>
    simp only [List.mem_cons] at h ⊢
    rcases h with h | h | h | h
    · exact .inl (.inl h)
    · exact .inr h
    · exact .inl (.inr (.inl h))
    · exact (ih h).imp_left fun h => .inr (.inr h)
  | case2 d cs _ ih =>
    rw [List.mem_cons] at h ⊢
    rcases h with h | h
    · exact .inl (.inl h)
    · exact (ih h).imp_left .inr
  | case3 => cases h

theorem guardCommentEnd_isOneLine (h : IsOneLine cs) : IsOneLine (guardCommentEnd cs) := by
  intro c hc
  rcases mem_guardCommentEnd hc with hc | rfl
  · exact h c hc
  · decide

/-- **A guarded text has the guarded lines of the text.** -/
theorem linesOf_guardCommentEnd {found : List (List Char)} (h : LinesOf cs found) :
    LinesOf (guardCommentEnd cs) (found.map guardCommentEnd) := by
  induction h with
  | none => exact .none
  | @last line hne hline =>
    refine .last (fun hnil => hne ?_) (guardCommentEnd_isOneLine hline)
    rw [← List.head?_eq_none_iff, ← head?_guardCommentEnd, hnil]
    rfl
  | @cons line stop rest others hline hstop hpair _ ih =>
    have hasterisk : '*' ∉ stop := fun hmem =>
      absurd (hstop.isLineEnd_of_mem hmem) (by decide)
    have hslash : ∀ d ∈ (stop ++ rest).head?, d ≠ '/' := by
      rintro d hd rfl
      rw [List.head?_append_of_ne_nil _ hstop.ne_nil] at hd
      exact absurd (hstop.isLineEnd_of_mem (List.mem_of_mem_head? hd)) (by decide)
    rw [guardCommentEnd_append hslash, guardCommentEnd_append_of_notMem hasterisk]
    exact .cons (guardCommentEnd_isOneLine hline) hstop
      (fun heq => by rw [head?_guardCommentEnd]; exact hpair heq) ih

theorem lines_guardCommentEnd (cs : List Char) :
    Text.lines (guardCommentEnd cs) = (Text.lines cs).map guardCommentEnd :=
  Text.linesOf_iff.mp (linesOf_guardCommentEnd (Text.linesOf_lines cs))

/-- The lines that a text adds to a comment are its own, guarded. -/
theorem docLines_of_ne_empty {text : String} (h : text ≠ "") :
    docLines text = (Text.lines text.toList).map guardCommentEnd := by
  rw [docLines, lines_guardCommentEnd]
  split
  · rename_i hnil
    rw [List.map_eq_nil_iff, Text.lines_eq_nil_iff] at hnil
    exact absurd (String.toList_inj.mp hnil) h
  · rename_i hlines
    rw [hlines]

end Guarded

end TypeScript
end SchemaTypes

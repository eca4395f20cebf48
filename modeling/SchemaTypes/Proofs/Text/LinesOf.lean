import SchemaTypes.Text.Character
import SchemaTypes.Text.Line

/-!
# A text and its lines

`lines` cuts a text while it walks through it, and `trimEnd` walks back from the end. What the two
come to is said here without the walk. The lines of a text are what is left of it when the ends of
lines are taken out, and nothing else is taken out (`LinesOf`); a carriage return in front of a line
feed is no end by itself but the first half of one. A text loses its blanks at the end and stops
where a character is none (`TrimmedEnd`).

Both say all there is to say: a text has exactly one list of lines, that of `lines`, and is trimmed
to exactly one text, that of `trimEnd` (`linesOf_iff`, `trimmedEnd_iff`).
-/

namespace SchemaTypes
namespace Text

/-! ## Lines -/

/-- What stands behind a line: one character, or a carriage return with its line feed. -/
inductive LineEnd : List Char → Prop
  | single {c : Char} : isLineEnd c = true → LineEnd [c]
  | pair : LineEnd ['\r', '\n']

theorem LineEnd.ne_nil {stop : List Char} (h : LineEnd stop) : stop ≠ [] := by
  cases h <;> exact List.cons_ne_nil _ _

/-- Every character of an end of a line could end one by itself. -/
theorem LineEnd.isLineEnd_of_mem {stop : List Char} (h : LineEnd stop) {c : Char} (hc : c ∈ stop) :
    isLineEnd c = true := by
  cases h with
  | single hend => exact List.mem_singleton.mp hc ▸ hend
  | pair =>
    rw [List.mem_cons, List.mem_singleton] at hc
    rcases hc with rfl | rfl
    · decide
    · decide

/-- A text consists of its lines and of the ends between them; the last line need not have one. -/
inductive LinesOf : List Char → List (List Char) → Prop
  | none : LinesOf [] []
  | last {line : List Char} :
    line ≠ [] → (∀ c ∈ line, isLineEnd c = false) → LinesOf line [line]
  | cons {line stop rest : List Char} {others : List (List Char)} :
    (∀ c ∈ line, isLineEnd c = false) → LineEnd stop →
    (stop = ['\r'] → ∀ c ∈ rest.head?, c ≠ '\n') → LinesOf rest others →
      LinesOf (line ++ (stop ++ rest)) (line :: others)

section Lines

variable {cs line stop rest first : List Char} {others found : List (List Char)}

/-- Characters that end no line go to the front of the first line. -/
theorem LinesOf.prepend (h : LinesOf cs (first :: others))
    (hline : ∀ c ∈ line, isLineEnd c = false) :
    LinesOf (line ++ cs) ((line ++ first) :: others) := by
  cases h with
  | last hne hfirst =>
    exact .last (List.append_ne_nil_of_right_ne_nil _ hne)
      (List.forall_mem_append.mpr ⟨hline, hfirst⟩)
  | cons hfirst hstop hpair hrest =>
    rw [← List.append_assoc]
    exact .cons (List.forall_mem_append.mpr ⟨hline, hfirst⟩) hstop hpair hrest

theorem linesOf_lines (cs : List Char) : LinesOf cs (lines cs) := by
  induction cs using lines.induct with
  | case1 => exact .none
  | case2 cs ih =>
    have hall : LinesOf ([] ++ (['\r', '\n'] ++ cs)) ([] :: lines cs) :=
      .cons (List.forall_mem_nil _) .pair (by simp) ih
    rwa [lines]
  | case3 c cs hpair hend ih =>
    have hnot : [c] = ['\r'] → ∀ d ∈ cs.head?, d ≠ '\n' := by
      rintro ⟨⟩ d hd rfl
      obtain ⟨rest, rfl⟩ := List.head?_eq_some_iff.mp hd
      exact hpair rest rfl rfl
    have hall : LinesOf ([] ++ ([c] ++ cs)) ([] :: lines cs) :=
      .cons (List.forall_mem_nil _) (.single hend) hnot ih
    rw [lines, if_pos hend]
    · exact hall
    · exact hpair
  | case4 c cs hpair hend ih =>
    have hline : ∀ d ∈ [c], isLineEnd d = false := by simpa using hend
    rw [lines, if_neg hend]
    · cases hlines : lines cs with
      | nil =>
        rw [hlines] at ih
        cases ih
        exact .last (List.cons_ne_nil c []) hline
      | cons first others => exact (hlines ▸ ih).prepend hline
    · exact hpair

/-- A character that ends no line goes to the front of the first line. -/
theorem lines_cons_of_not_isLineEnd {c : Char} (h : isLineEnd c = false) (cs : List Char) :
    lines (c :: cs) = consFirst c (lines cs) := by
  rw [lines, if_neg (by simp [h])]
  rintro _ rfl
  exact absurd h (by decide)

/-- Behind the end of a line the other lines follow. -/
theorem lines_stop_append (hstop : LineEnd stop)
    (hpair : stop = ['\r'] → ∀ c ∈ rest.head?, c ≠ '\n') :
    lines (stop ++ rest) = [] :: lines rest := by
  cases hstop with
  | single hend =>
    rw [List.singleton_append, lines, if_pos hend]
    rintro behind rfl rfl
    exact hpair rfl '\n' rfl rfl
  | pair => rw [List.cons_append, List.singleton_append, lines]

theorem lines_line_append (hline : ∀ c ∈ line, isLineEnd c = false)
    (hrest : lines rest = [] :: others) : lines (line ++ rest) = line :: others := by
  induction line with
  | nil => exact hrest
  | cons c line ih =>
    rw [List.forall_mem_cons] at hline
    rw [List.cons_append, lines_cons_of_not_isLineEnd hline.1, ih hline.2]
    rfl

theorem lines_line (hne : line ≠ []) (hline : ∀ c ∈ line, isLineEnd c = false) :
    lines line = [line] := by
  induction line with
  | nil => exact absurd rfl hne
  | cons c line ih =>
    rw [List.forall_mem_cons] at hline
    rw [lines_cons_of_not_isLineEnd hline.1]
    cases line with
    | nil => rfl
    | cons d line =>
      rw [ih (List.cons_ne_nil d line) hline.2]
      rfl

/-- **A text has one list of lines.** -/
theorem linesOf_iff : LinesOf cs found ↔ lines cs = found := by
  constructor
  · intro h
    induction h with
    | none => rfl
    | last hne hline => exact lines_line hne hline
    | cons hline hstop hpair _ ih =>
      rw [lines_line_append hline (lines_stop_append hstop hpair), ih]
  · rintro rfl
    exact linesOf_lines cs

/-- Only the empty text has no lines. -/
theorem lines_eq_nil_iff : lines cs = [] ↔ cs = [] := by
  constructor
  · intro h
    cases linesOf_iff.mpr h with
    | none => rfl
  · rintro rfl
    rfl

end Lines

/-! ## Blanks at the end -/

/-- What is left of a text without the blanks at its end. -/
structure TrimmedEnd (text trimmed : List Char) : Prop where
  blank : ∃ tail, text = trimmed ++ tail ∧ ∀ c ∈ tail, isBlank c = true
  last : ∀ c ∈ trimmed.getLast?, isBlank c = false

/-- **A text is trimmed in one way.** -/
theorem trimmedEnd_iff {text trimmed : List Char} :
    TrimmedEnd text trimmed ↔ trimEnd isBlank text = trimmed := by
  constructor
  · rintro ⟨⟨tail, rfl, htail⟩, hlast⟩
    have hback : trimmed.reverse.dropWhile isBlank = trimmed.reverse := by
      cases hreverse : trimmed.reverse with
      | nil => rfl
      | cons c front =>
        have hc : c ∈ trimmed.getLast? := by
          rw [← List.head?_reverse, hreverse]
          rfl
        exact List.dropWhile_cons_of_neg (by simp [hlast c hc])
    rw [trimEnd, List.reverse_append,
      List.dropWhile_append_of_pos (fun c hc => htail c (List.mem_reverse.mp hc)), hback,
      List.reverse_reverse]
  · rintro rfl
    obtain ⟨tail, htext, htail⟩ := trimEnd_append_eq isBlank text
    refine ⟨⟨tail, htext.symm, htail⟩, fun c hc => ?_⟩
    rw [trimEnd, List.getLast?_reverse] at hc
    have hhead := List.head?_dropWhile_not isBlank text.reverse
    rwa [Option.mem_def.mp hc] at hhead

/-- Trimming does not go past a character that is no blank. -/
theorem TrimmedEnd.isPrefix {front rest trimmed : List Char} {c : Char}
    (h : TrimmedEnd (front ++ [c] ++ rest) trimmed) (hc : isBlank c = false) :
    front ++ [c] <+: trimmed := by
  obtain ⟨tail, heq, htail⟩ := h.blank
  rcases List.append_eq_append_iff.mp heq with ⟨more, htrimmed, -⟩ | ⟨more, hfront, rfl⟩
  · exact ⟨more, htrimmed.symm⟩
  · rcases List.eq_nil_or_concat more with rfl | ⟨before, last, rfl⟩
    · rw [List.append_nil] at hfront
      exact hfront ▸ List.prefix_rfl
    · -- the last character of the front would be one of the blanks
      rw [List.concat_eq_append, ← List.append_assoc] at hfront
      have hlast : c = last := List.singleton_inj.mp (List.append_inj_right' hfront rfl)
      have hblank := htail last (by simp)
      rw [← hlast, hc] at hblank
      cases hblank

end Text
end SchemaTypes

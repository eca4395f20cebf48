import SchemaTypes.Proofs.Text.SelfDelimiting
import SchemaTypes.TypeScript.Render

/-!
# Documentation comments delimit themselves

A documentation comment is known by its rows. The lines it documents were cut at every line end,
so none of its rows holds a line feed; and a row of the block never is the closing row, since a
space follows the asterisk unless the row stops there. So the first row that closes a comment is
the one written to close it, whatever the comment and the default are, and everything behind the
block is left alone (`selfDelimiting_docText`).
-/

namespace SchemaTypes
namespace TypeScript

/-- The text of a documentation comment, a line feed behind each row. -/
def docText (comment defaultValue : Option String) : List Char :=
  (docComment comment defaultValue).flatMap fun row => row.toList ++ ['\n']

/-- The row that closes a documentation comment. -/
def closingRow : String := "   */"

/-- A line without any character that ends a line. -/
def IsOneLine (line : List Char) : Prop :=
  ∀ c ∈ line, Text.isLineEnd c = false

/-! ## Lines -/

theorem isOneLine_of_mem_docLines {text : String} {line : List Char} (h : line ∈ docLines text) :
    IsOneLine line := by
  unfold docLines at h
  split at h
  · rw [List.mem_singleton] at h
    subst h
    intro c hc
    cases hc
  · rename_i first rest hlines
    exact fun c hc => Text.isLineEnd_of_mem_lines (hlines ▸ h) hc

theorem isOneLine_append {line rest : List Char} (hline : IsOneLine line) (hrest : IsOneLine rest) :
    IsOneLine (line ++ rest) := by
  intro c hc
  exact (List.mem_append.mp hc).elim (hline c) (hrest c)

/-- What holds of the lines of every text, and still holds behind the tag of a default, holds of
all that a member documents. -/
theorem forall_mem_documented {P : List Char → Prop}
    (hlines : ∀ (text : String), ∀ line ∈ docLines text, P line)
    (htag : ∀ line, P line → P ("@default ".toList ++ line))
    (comment defaultValue : Option String) :
    ∀ line ∈ commentLines comment ++ defaultLines defaultValue, P line := by
  have hcomment : ∀ line ∈ commentLines comment, P line := by
    intro line hline
    unfold commentLines at hline
    split at hline
    · cases hline
    · split at hline
      · cases hline
      · exact hlines _ line hline
  have hdefault : ∀ line ∈ defaultLines defaultValue, P line := by
    intro line hline
    have hold := hlines (defaultValue.getD "null")
    unfold defaultLines at hline
    split at hline
    · cases hline
    · rename_i first rest hdoc
      rw [hdoc, List.forall_mem_cons] at hold
      rcases List.mem_cons.mp hline with rfl | hline
      · exact htag first hold.1
      · exact hold.2 line hline
  exact List.forall_mem_append.mpr ⟨hcomment, hdefault⟩

/-- All that a member documents is lines. -/
theorem isOneLine_of_mem_documented {comment defaultValue : Option String} {line : List Char}
    (h : line ∈ commentLines comment ++ defaultLines defaultValue) : IsOneLine line := by
  have htag : IsOneLine "@default ".toList := by
    simp [IsOneLine, Text.isLineEnd]
  exact forall_mem_documented (fun _ _ => isOneLine_of_mem_docLines)
    (fun _ hline => isOneLine_append htag hline) comment defaultValue line h

/-! ## Rows -/

theorem toList_docRow (line : List Char) :
    (docRow line).toList = Text.trimEnd Text.isBlank ("   * ".toList ++ line) :=
  String.toList_ofList

theorem isOneLine_docRow {line : List Char} (h : IsOneLine line) :
    IsOneLine (docRow line).toList := by
  intro c hc
  rw [toList_docRow] at hc
  obtain ⟨tail, heq, -⟩ := Text.trimEnd_append_eq Text.isBlank ("   * ".toList ++ line)
  have hmem : c ∈ "   * ".toList ++ line := heq ▸ List.mem_append_left tail hc
  have hmark : IsOneLine "   * ".toList := by
    simp [IsOneLine, Text.isLineEnd]
  exact isOneLine_append hmark h c hmem

/-- No documented line makes up a closing row. -/
theorem docRow_ne_closingRow (line : List Char) : docRow line ≠ closingRow := by
  intro h
  obtain ⟨tail, heq, -⟩ := Text.trimEnd_append_eq Text.isBlank ("   * ".toList ++ line)
  rw [← toList_docRow, h, closingRow] at heq
  simp at heq

/-! ## The block -/

/-- Rows of lines, each with its line feed, show what is written in them. -/
theorem selfDelimiting_docRow :
    Text.SelfDelimiting IsOneLine (fun line => (docRow line).toList ++ ['\n']) docRow := by
  refine ((Text.SelfDelimiting.terminated '\n').comap IsOneLine (fun line => (docRow line).toList)
    fun line hline hmem => ?_).map_view fun _ _ _ _ h => String.toList_inj.mp h
  exact absurd (isOneLine_docRow hline '\n' hmem) (by decide)

/-- No row of a line begins a text that goes on with the closing row. -/
theorem not_docRow_isPrefix {line : List Char} (hline : IsOneLine line) (rest : List Char) :
    ¬ (docRow line).toList ++ ['\n'] <+: closingRow.toList ++ ['\n'] ++ rest := by
  rintro ⟨more, h⟩
  have hrow : '\n' ∉ (docRow line).toList := fun hmem =>
    absurd (isOneLine_docRow hline '\n' hmem) (by decide)
  obtain ⟨heq, -⟩ := Text.SelfDelimiting.terminated '\n' hrow (by simp [closingRow]) h
  exact docRow_ne_closingRow line (String.toList_inj.mp heq)

theorem docText_eq (comment defaultValue : Option String) :
    docText comment defaultValue = "  /**\n".toList
      ++ (commentLines comment ++ defaultLines defaultValue).flatMap
        (fun line => (docRow line).toList ++ ['\n'])
      ++ (closingRow.toList ++ ['\n']) := by
  simp [docText, docComment, closingRow, List.flatMap_map]

/-- **A documentation comment shows its rows and ends where it was closed.** -/
theorem selfDelimiting_docText :
    Text.SelfDelimiting (fun _ => True)
      (fun doc : Option String × Option String => docText doc.1 doc.2)
      fun doc => docComment doc.1 doc.2 := by
  intro a b _ _ r s h
  simp only [docText_eq, List.append_assoc] at h
  rw [← List.append_assoc closingRow.toList, ← List.append_assoc closingRow.toList] at h
  obtain ⟨hrows, hrest⟩ := selfDelimiting_docRow.eq_of_flatMap
    (fun _ => isOneLine_of_mem_documented) (fun _ => isOneLine_of_mem_documented)
    (fun _ hline => not_docRow_isPrefix hline r) (fun _ hline => not_docRow_isPrefix hline s)
    (List.append_cancel_left h)
  refine ⟨?_, List.append_cancel_left hrest⟩
  show docComment a.1 a.2 = docComment b.1 b.2
  rw [docComment, docComment, hrows]

end TypeScript
end SchemaTypes

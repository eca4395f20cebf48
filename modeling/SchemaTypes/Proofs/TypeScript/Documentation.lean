import SchemaTypes.Proofs.Declaration.Content
import SchemaTypes.Proofs.TypeScript.CommentEnd
import SchemaTypes.Proofs.TypeScript.Declarations

/-!
# What a member documents

Above a member stands a block with its comment and its default. What has to stand in the block is
stated here row by row (`Documents`): one row for each line of the comment, and behind them one row
for each line of the default behind its tag. Lines are those of the text itself; whether the ends of
comments are taken apart before or after the text is cut makes no difference, since none of them
goes across the end of a line (`lines_guardCommentEnd`).

The block is closed by the row that is meant to close it and by nothing before it, for a reader that
stops at the first end of a comment. The member follows on the next row. All this holds for every
comment and every default (`documentation_ends_where_closed`).
-/

namespace SchemaTypes
namespace TypeScript

open Text (LinesOf TrimmedEnd replaceAll)

/-! ## Documented rows -/

/-- A line makes a row: behind an asterisk and a space, with the ends of comments taken apart and
without the blanks at its end. -/
def MakesRow (line row : List Char) : Prop :=
  TrimmedEnd ("   * ".toList ++ replaceAll "*/".toList "*\\/".toList line) row

/-- The rows that document a comment, which may be absent, and a default, which is said to be null
if it is absent. -/
def Documents (comment defaultValue : Option String) (rows : List (List Char)) : Prop :=
  ∃ commentLines defaultLines : List (List Char),
    LinesOf (comment.getD "").toList commentLines ∧
    LinesOf ("@default " ++ defaultValue.getD "null").toList defaultLines ∧
    List.Forall₂ MakesRow (commentLines ++ defaultLines) rows

theorem makesRow_iff {line row : List Char} :
    MakesRow line row ↔ (docRow (guardCommentEnd line)).toList = row := by
  rw [MakesRow, Text.trimmedEnd_iff, toList_docRow, guardCommentEnd_eq_replaceAll]
  rfl

theorem commentLines_eq (comment : Option String) :
    commentLines comment = (Text.lines (comment.getD "").toList).map guardCommentEnd := by
  cases comment with
  | none => rfl
  | some text =>
    rw [commentLines, Option.getD_some]
    split
    · rename_i hempty
      rw [String.isEmpty_iff.mp hempty]
      rfl
    · rename_i hempty
      exact docLines_of_ne_empty fun h => hempty (String.isEmpty_iff.mpr h)

theorem defaultLines_eq (defaultValue : Option String) :
    defaultLines defaultValue =
      (Text.lines ("@default " ++ defaultValue.getD "null").toList).map guardCommentEnd := by
  have htag : ∀ c ∈ "@default ".toList, Text.isLineEnd c = false := by
    simp [Text.isLineEnd]
  have hasterisk : '*' ∉ "@default ".toList := by simp
  rw [defaultLines, String.toList_append]
  by_cases hempty : defaultValue.getD "null" = ""
  · rw [hempty, String.toList_empty, List.append_nil, Text.lines_line (by simp) htag]
    rfl
  · rw [docLines_of_ne_empty hempty]
    cases hlines : Text.lines (defaultValue.getD "null").toList with
    | nil =>
      rw [Text.lines_eq_nil_iff] at hlines
      exact absurd (String.toList_inj.mp hlines) hempty
    | cons first rest =>
      have htagged := (Text.linesOf_iff.mpr hlines).prepend htag
      rw [Text.linesOf_iff.mp htagged, List.map_cons, List.map_cons,
        guardCommentEnd_append_of_notMem hasterisk]

/-- **The rows are those that have to be there**, and no others would do. -/
theorem documents_iff {comment defaultValue : Option String} {rows : List (List Char)} :
    Documents comment defaultValue rows ↔ documentedRows comment defaultValue = rows := by
  have hrow : MakesRow = fun line row => (docRow (guardCommentEnd line)).toList = row := by
    funext line row
    exact propext makesRow_iff
  rw [documentedRows, commentLines_eq, defaultLines_eq, ← List.map_append, List.map_map,
    Documents, hrow]
  simp only [Text.linesOf_iff, forall₂_iff_map_eq, exists_eq_left', exists_and_left]
  rfl

/-! ## The end of the block -/

/-- A pattern stands in a text behind some other text, and nowhere earlier. -/
structure OccursFirst (pattern text before behind : List Char) : Prop where
  here : text = before ++ (pattern ++ behind)
  notEarlier : ∀ front rest, text = front ++ (pattern ++ rest) → before.length ≤ front.length

/-- In front of a text that stays inside a comment, the pair behind it is the first one. -/
theorem StaysInside.length_le {inside : List Char} (h : StaysInside inside)
    {front behind rest : List Char}
    (heq : inside ++ ("*/".toList ++ behind) = front ++ ("*/".toList ++ rest)) :
    inside.length ≤ front.length := by
  induction inside generalizing front with
  | nil => exact Nat.zero_le _
  | cons c inside ih =>
    cases front with
    | nil =>
      exfalso
      obtain ⟨rfl, hnext⟩ := List.cons.inj heq
      cases inside with
      | nil => exact absurd (List.cons.inj hnext).1 (by decide)
      | cons d inside =>
        obtain ⟨rfl, -⟩ := List.cons.inj hnext
        exact (List.isChain_cons_cons.mp h).1 ⟨rfl, rfl⟩
    | cons d front =>
      exact Nat.succ_le_succ (ih (List.isChain_cons.mp h).2 (List.cons.inj heq).2)

theorem StaysInside.occursFirst {inside : List Char} (h : StaysInside inside)
    (behind : List Char) :
    OccursFirst "*/".toList (inside ++ ("*/".toList ++ behind)) inside behind :=
  ⟨rfl, fun _ _ => h.length_le⟩

/-- What is first behind a character is first without it. -/
theorem OccursFirst.tail {pattern text before behind : List Char} {c : Char}
    (h : OccursFirst pattern (c :: text) (c :: before) behind) :
    OccursFirst pattern text before behind where
  here := (List.cons.inj h.here).2
  notEarlier front rest heq := by
    have hlonger := h.notEarlier (c :: front) rest (by rw [heq, List.cons_append])
    exact Nat.le_of_succ_le_succ hlonger

/-- Whatever its line is, a row begins with the asterisk. -/
theorem isPrefix_docRow (line : List Char) : "   *".toList <+: (docRow line).toList := by
  have hrow : TrimmedEnd ("   ".toList ++ ['*'] ++ (' ' :: line)) (docRow line).toList :=
    Text.trimmedEnd_iff.mpr (toList_docRow line).symm
  exact hrow.isPrefix (by decide)

/-- What follows the end of the block: on the next row the member itself. -/
def memberRow (property : Property) : List Char :=
  "\n".toList ++ ("  " ++ propertyKey property.name ++ ": " ++ property.typeExpression ++ ";").toList

/-- **What a member documents stays in its block.** There is one way to document its comment and its
default, line by line, and the block above the member has just these rows, each of them a line that
begins with an asterisk. The end of a comment is found for the first time where the block is closed,
even if the search begins at the second asterisk of its opening. Behind it is the member. -/
theorem documentation_ends_where_closed (property : Property) :
    ∃ rows block inside,
      (∀ other, Documents property.comment property.defaultValue other ↔ rows = other) ∧
      (∀ row ∈ rows, "   *".toList <+: row ∧ ∀ c ∈ row, Text.isLineEnd c = false) ∧
      (renderProperty property).toList = "  /**".toList ++ block ∧
      block = "\n".toList ++ (rows.flatMap (fun row => row ++ ['\n'])
        ++ ("   */".toList ++ memberRow property)) ∧
      OccursFirst "*/".toList block inside (memberRow property) ∧
      OccursFirst "*/".toList ('*' :: block) ('*' :: inside) (memberRow property) := by
  have hinside := staysInside_insideOf property.comment property.defaultValue
  have hfirst := hinside.occursFirst (memberRow property)
  have hblock : insideOf (documentedRows property.comment property.defaultValue)
      ++ ("*/".toList ++ memberRow property) = '*' :: ("\n".toList
        ++ ((documentedRows property.comment property.defaultValue).flatMap
          (fun row => row ++ ['\n']) ++ ("   */".toList ++ memberRow property))) := by
    simp [insideOf]
  rw [hblock] at hfirst
  refine ⟨_, _, _, fun _ => documents_iff, fun row hrow => ?_, ?_, rfl, hfirst.tail, hfirst⟩
  · obtain ⟨line, hline, rfl⟩ := List.mem_map.mp hrow
    exact ⟨isPrefix_docRow line, isOneLine_docRow (isOneLine_of_mem_documented hline)⟩
  · rw [toList_renderProperty, docText_eq_insideOf, insideOf]
    simp [memberRow]

end TypeScript
end SchemaTypes

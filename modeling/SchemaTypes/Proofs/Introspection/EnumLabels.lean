import Mathlib.Data.List.Forall2
import SchemaTypes.Generation
import SchemaTypes.Proofs.ArrayLiteral.Written
import SchemaTypes.Proofs.Introspection.Steps

/-!
# Two forms of enum labels

The labels of an enum reach an introspection as a list or as an array literal. Both forms stand for
the same labels, for every list and every literal that writes it. So an executor that answers with
the one form where another executor answers with the other leads to the same introspection, and
from there to the same declarations.

Rows are compared entry by entry: two rows are relabelled versions of each other if they differ at
most in the value of the labels, and there only in the form. Answers to other queries than the one
for enum types have to be the same.
-/

namespace SchemaTypes
namespace Introspection

/-- A value that stands for some labels: their list, or a literal that writes it. -/
inductive StandsFor (labels : List String) : Value → Prop
  | list : StandsFor labels (.list (labels.map .text))
  | literal {text : String} :
    ArrayLiteral.WrittenLiteral labels text → StandsFor labels (.text text)

/-- The column of an enum's row that holds the labels. -/
def labelsColumn : String := "enumlabels"

/-- Two rows that may differ in the form of their labels. -/
inductive Relabelled : Row → Row → Prop
  | nil : Relabelled [] []
  | same (entry : String × Value) {row other : Row} :
    Relabelled row other → Relabelled (entry :: row) (entry :: other)
  | labels {labels : List String} {value value' : Value} {row other : Row} :
    StandsFor labels value → StandsFor labels value' → Relabelled row other →
      Relabelled ((labelsColumn, value) :: row) ((labelsColumn, value') :: other)

/-- Two answers to a query that may differ in the form of the labels of enums. -/
inductive AnsweredAlike : Query → Except Failure (List Row) → Except Failure (List Row) → Prop
  | same (query : Query) (answer : Except Failure (List Row)) : AnsweredAlike query answer answer
  | enums (schemaName : Value) {rows others : List Row} :
    List.Forall₂ Relabelled rows others → AnsweredAlike (.enums schemaName) (.ok rows) (.ok others)

/-- Two executors whose answers may differ in the form of the labels of enums. -/
def DifferInLabels (executor other : Executor) : Prop :=
  ∀ before query, AnsweredAlike query (executor before query) (other before query)

/-! ## Rows -/

/-- Both forms have the labels that they stand for. -/
theorem labels_of_standsFor {labels : List String} {value : Value} (h : StandsFor labels value) :
    ArrayLiteral.labels value = labels := by
  cases h with
  | list => exact ArrayLiteral.labels_list labels
  | literal h => exact ArrayLiteral.textItems_of_writtenLiteral h

/-- Relabelling a row leaves its other columns alone. -/
theorem lookup_of_relabelled {row other : Row} (h : Relabelled row other) {name : String}
    (hname : name ≠ labelsColumn) : row.lookup name = other.lookup name := by
  induction h with
  | nil => rfl
  | same entry _ ih => rw [List.lookup_cons, List.lookup_cons, ih]
  | labels _ _ _ ih => rw [List.lookup_cons, List.lookup_cons, beq_eq_false_iff_ne.mpr hname, ih]

/-- Relabelling a row keeps its labels. -/
theorem labels_of_relabelled {row other : Row} (h : Relabelled row other) :
    ArrayLiteral.labels (column? row labelsColumn)
      = ArrayLiteral.labels (column? other labelsColumn) := by
  unfold column?
  induction h with
  | nil => rfl
  | same entry _ ih =>
    rw [List.lookup_cons, List.lookup_cons]
    split
    · rfl
    · exact ih
  | labels hvalue hvalue' _ _ =>
    rw [List.lookup_cons_self, List.lookup_cons_self, Option.getD_some, Option.getD_some,
      labels_of_standsFor hvalue, labels_of_standsFor hvalue']

/-- Relabelled rows describe the same enum type, or fail in the same way. -/
theorem enumOfRow_of_relabelled (schemaName : Value) {row other : Row}
    (h : Relabelled row other) : enumOfRow schemaName row = enumOfRow schemaName other := by
  have hname : row.lookup "typname" = other.lookup "typname" :=
    lookup_of_relabelled h (by decide)
  have hschema : row.lookup "nspname" = other.lookup "nspname" :=
    lookup_of_relabelled h (by decide)
  have hlabels : ArrayLiteral.labels (column? row "enumlabels")
      = ArrayLiteral.labels (column? other "enumlabels") := labels_of_relabelled h
  simp only [enumOfRow, hlabels]
  simp only [column, column?, hname, hschema]

theorem enumsOfRows_of_relabelled (schemaName : Value) {rows others : List Row}
    (h : List.Forall₂ Relabelled rows others) :
    enumsOfRows schemaName rows = enumsOfRows schemaName others := by
  induction h with
  | nil => rfl
  | cons hrow _ ih => rw [enumsOfRows, enumsOfRows, enumOfRow_of_relabelled schemaName hrow, ih]

/-! ## Answers -/

/-- Only the answers to queries for enum types may differ. -/
theorem eq_of_answeredAlike {query : Query} {answer other : Except Failure (List Row)}
    (h : AnsweredAlike query answer other) (hquery : query.stage ≠ .enums) : answer = other := by
  cases h with
  | same => rfl
  | enums => exact absurd rfl hquery

/-- Answers that differ in labels give the same enum types. -/
theorem bind_enumsOfRows_of_answeredAlike {schemaName : Value}
    {answer other : Except Failure (List Row)} (h : AnsweredAlike (.enums schemaName) answer other)
    (failed : Failure → Error) :
    (answer.mapError failed).bind (enumsOfRows schemaName)
      = (other.mapError failed).bind (enumsOfRows schemaName) := by
  cases h with
  | same => rfl
  | enums _ hrows => exact enumsOfRows_of_relabelled schemaName hrows

/-! ## Introspections -/

section Executors

variable {executor other : Executor}

/-- A query for anything but enum types is answered the same. -/
theorem ask_eq_of_differInLabels (h : DifferInLabels executor other) {query : Query}
    (hquery : query.stage ≠ .enums) : ask executor query = ask other query := by
  have hanswer (before : List Query) : executor before query = other before query :=
    eq_of_answeredAlike (h before query) hquery
  simp only [ask, hanswer]

theorem fetchTable_eq_of_differInLabels (h : DifferInLabels executor other) (schemaName : Value)
    (row : Row) : fetchTable executor schemaName row = fetchTable other schemaName row := by
  have hcolumns (name tableSchema : Value) : ask executor (.columns name tableSchema)
      = ask other (.columns name tableSchema) :=
    ask_eq_of_differInLabels h (by simp [Query.stage])
  simp only [fetchTable, fetchColumns, hcolumns]

theorem fetchTablesOf_eq_of_differInLabels (h : DifferInLabels executor other)
    (schemaName : Value) (rows : List Row) :
    fetchTablesOf executor schemaName rows = fetchTablesOf other schemaName rows := by
  induction rows with
  | nil => rfl
  | cons row rows ih =>
    rw [fetchTablesOf, fetchTablesOf, fetchTable_eq_of_differInLabels h, ih]

theorem fetchTables_eq_of_differInLabels (h : DifferInLabels executor other)
    (schemaName : Value) : fetchTables executor schemaName = fetchTables other schemaName := by
  have htables : ask executor (.tables schemaName) = ask other (.tables schemaName) :=
    ask_eq_of_differInLabels h (by simp [Query.stage])
  simp only [fetchTables, htables, fetchTablesOf_eq_of_differInLabels h]

/-- The rows of enum types may differ, but what is read from them does not. -/
theorem fetchEnums_eq_of_differInLabels (h : DifferInLabels executor other) (schemaName : Value) :
    fetchEnums executor schemaName = fetchEnums other schemaName := by
  funext progress
  have hrun : (fetchEnums executor schemaName).run.run progress
      = (fetchEnums other schemaName).run.run progress := by
    rw [run_fetchEnums, run_fetchEnums, bind_enumsOfRows_of_answeredAlike (h _ _)]
  exact hrun

/-- The form of labels leaves no trace in an introspection: not in the schema or the error, not
in the queries, not in the reports. -/
theorem introspect_eq_of_differInLabels (h : DifferInLabels executor other) (schemaName : Value) :
    introspect executor schemaName = introspect other schemaName := by
  have hfetch : fetchSchema executor schemaName = fetchSchema other schemaName := by
    simp only [fetchSchema, fetchTables_eq_of_differInLabels h, fetchEnums_eq_of_differInLabels h]
  rw [introspect, introspect, hfetch]

/-- **The form of labels leaves no trace.** A literal written for some labels has just these
labels, and so has their list. Answers with the one form in place of the other, in whatever rows,
lead to the same introspection and generate the same. -/
theorem forms_of_labels_agree :
    (∀ (labels : List String) (text : String), ArrayLiteral.WrittenLiteral labels text →
      ArrayLiteral.labels (.text text) = labels ∧
        ArrayLiteral.labels (.list (labels.map .text)) = labels) ∧
    (∀ executor other : Executor, DifferInLabels executor other →
      (∀ schemaName, introspect executor schemaName = introspect other schemaName) ∧
      (∀ files request,
        Generation.run executor files request = Generation.run other files request)) := by
  refine ⟨fun labels text h => ?_, fun executor other h => ⟨?_, fun files request => ?_⟩⟩
  · exact ⟨ArrayLiteral.textItems_of_writtenLiteral h, ArrayLiteral.labels_list labels⟩
  · exact introspect_eq_of_differInLabels h
  · have hintrospect := introspect_eq_of_differInLabels h request.schemaName
    rw [Generation.run, Generation.run, hintrospect]

/-- Labels that need to be written with care. -/
def mixedLabels : List String := ["a b", "", ",\"\\", "x,y"]

/-- A literal for these labels: a bare item, an empty one, one inside quotes with a comma, a quote
and a backslash in it, and a bare one with a comma. -/
def mixedLiteral : String := "\x7ba b,\"\",\",\\\"\\\\\",x\\,y\x7d"

/-- An executor that knows one enum type, with its labels in the given form. -/
def oneEnum (labels : Value) : Executor := fun _ query =>
  match query with
  | .enums _ => .ok [[("typname", .text "mood"), (labelsColumn, labels)]]
  | _ => .ok []

theorem writtenLiteral_mixed : ArrayLiteral.WrittenLiteral mixedLabels mixedLiteral := by
  have hspace : ¬ ArrayLiteral.IsSpecial false ' ' := by decide
  have hplain : ArrayLiteral.WrittenItem "a b".toList "a b".toList := by
    refine .bare (by simp) ?_
    exact .plain (by decide) (.plain hspace (.plain (by decide) .nil))
  have hempty : ArrayLiteral.WrittenItem "".toList "\"\"".toList := .quoted .nil
  have hquoted : ArrayLiteral.WrittenItem ",\"\\".toList "\",\\\"\\\\\"".toList :=
    .quoted (.plain (by decide) (.behind (.behind .nil)))
  have hbare : ArrayLiteral.WrittenItem "x,y".toList "x\\,y".toList := by
    refine .bare (by simp) ?_
    exact .plain (by decide) (.behind (.plain (by decide) .nil))
  have hitems : ArrayLiteral.WrittenItems (mixedLabels.map String.toList) _ :=
    .cons hplain (.cons hempty (.cons hquoted (.last hbare)))
  exact ArrayLiteral.WrittenLiteral.items hitems

theorem differInLabels_oneEnum : DifferInLabels (oneEnum (.text mixedLiteral))
    (oneEnum (.list (mixedLabels.map .text))) := by
  intro before query
  cases query with
  | enums schemaName =>
    have hlabels := Relabelled.labels (.literal writtenLiteral_mixed) .list .nil
    exact .enums schemaName (.cons (.same _ hlabels) .nil)
  | tables | columns => exact .same _ _

theorem forms_of_mixedLabels_agree :
    ArrayLiteral.labels (.text mixedLiteral) = mixedLabels ∧
      introspect (oneEnum (.text mixedLiteral)) (.text "public")
        = introspect (oneEnum (.list (mixedLabels.map .text))) (.text "public") :=
  ⟨(forms_of_labels_agree.1 _ _ writtenLiteral_mixed).1,
    (forms_of_labels_agree.2 _ _ differInLabels_oneEnum).1 _⟩

end Executors

end Introspection
end SchemaTypes

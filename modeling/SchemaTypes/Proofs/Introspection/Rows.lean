import SchemaTypes.Introspection

/-!
# What rows describe

A row is usable if it has the columns that are needed of it, as texts, and has texts or nulls in
those that it may lack. A usable row describes a column, a table or an enum type, and what it
describes is a function of its texts: `columnDescribed`, `tableDescribed` and `enumDescribed` say
which, and reading the row gives just that.
-/

namespace SchemaTypes
namespace Introspection

/-! ## Texts in rows -/

/-- A row has a text in a column. -/
def HasText (row : Row) (name : String) : Prop :=
  ∃ s, row.lookup name = some (.text s)

/-- A row has a text in a column, or null, or it lacks the column. -/
def MayHaveText (row : Row) (name : String) : Prop :=
  row.lookup name = none ∨ row.lookup name = some .null ∨ HasText row name

/-- The text in a column of a row, if there is one. -/
def text? (row : Row) (name : String) : Option String :=
  (row.lookup name).bind Value.text?

/-- The text in a column of a row; the empty one if there is none. -/
def textOf (row : Row) (name : String) : String :=
  (text? row name).getD ""

/-- The text in a column of a row, or another one in place of an empty text or none. -/
def textOr (row : Row) (name other : String) : String :=
  if textOf row name = "" then other else textOf row name

/-- What is needed of a row that answers a query: a name, what tells the type and whether null is
allowed for a column, and nothing in the place of a text that is none. -/
def UsableRow (row : Row) : Stage → Prop
  | .tables => HasText row "table_name" ∧ MayHaveText row "table_schema"
  | .columns => HasText row "column_name" ∧ MayHaveText row "udt_name" ∧
    (textOf row "udt_name" = "" → HasText row "data_type") ∧ HasText row "is_nullable" ∧
    MayHaveText row "column_default" ∧ MayHaveText row "description"
  | .enums => HasText row "typname" ∧ MayHaveText row "nspname"

/-! ## What usable rows describe -/

/-- The column that a row describes. -/
def columnDescribed (row : Row) : Column where
  name := textOf row "column_name"
  nativeType := textOr row "udt_name" (textOf row "data_type")
  isNullable := textOf row "is_nullable" = "YES"
  defaultValue := text? row "column_default"
  comment := (text? row "description").filter (· ≠ "")

/-- The table that a row describes, with the columns that other rows describe. -/
def tableDescribed (schemaName : String) (row : Row) (rows : List Row) : Table where
  name := textOf row "table_name"
  schemaName := textOr row "table_schema" schemaName
  columns := rows.map columnDescribed

/-- The enum type that a row describes. -/
def enumDescribed (schemaName : String) (row : Row) : EnumType where
  name := textOf row "typname"
  schemaName := textOr row "nspname" schemaName
  labels := ArrayLiteral.labels (column? row "enumlabels")

section Usable

variable {row : Row} {name : String}

theorem column_of_hasText (h : HasText row name) :
    column row name = .ok (.text (textOf row name)) := by
  obtain ⟨s, hs⟩ := h
  rw [column, textOf, text?, hs]
  rfl

theorem column?_of_hasText (h : HasText row name) :
    column? row name = .text (textOf row name) := by
  obtain ⟨s, hs⟩ := h
  rw [column?, textOf, text?, hs]
  rfl

theorem column?_of_mayHaveText (h : MayHaveText row name) :
    column? row name = .ofOption (text? row name) := by
  rw [column?, text?]
  rcases h with hnone | hnull | ⟨s, hs⟩
  · rw [hnone]
    rfl
  · rw [hnull]
    rfl
  · rw [hs]
    rfl

theorem isEmpty_ofOption (s? : Option String) :
    (Value.ofOption s?).isEmpty = true ↔ s?.getD "" = "" := by
  cases s? with
  | none => exact iff_of_true rfl rfl
  | some s => exact String.isEmpty_iff

/-- A text that is not the empty one in the place of none is there. -/
theorem ofOption_text? (h : textOf row name ≠ "") :
    Value.ofOption (text? row name) = .text (textOf row name) := by
  unfold textOf at h ⊢
  cases htext : text? row name with
  | none => exact absurd (by rw [htext]; rfl) h
  | some s => rfl

/-- A text that may be missing, with another text in its place. -/
theorem orElse_of_mayHaveText (h : MayHaveText row name) (other : String) :
    orElse (column? row name) (.text other) = .text (textOr row name other) := by
  rw [column?_of_mayHaveText h, orElse, textOr]
  by_cases hempty : textOf row name = ""
  · rw [if_pos hempty, if_pos ((isEmpty_ofOption _).mpr hempty)]
  · rw [if_neg hempty, if_neg fun h => hempty ((isEmpty_ofOption _).mp h), ofOption_text? hempty]

/-- A text that may be missing, with null in its place if it is empty. -/
theorem orElse_null_of_mayHaveText (h : MayHaveText row name) :
    orElse (column? row name) .null = .ofOption ((text? row name).filter (· ≠ "")) := by
  rw [column?_of_mayHaveText h, orElse]
  cases text? row name with
  | none => rfl
  | some s =>
    by_cases hs : s = ""
    · subst hs
      rfl
    · rw [if_neg fun h => hs ((isEmpty_ofOption (some s)).mp h), Option.filter_some,
        if_pos (decide_eq_true hs)]

theorem isText_text (s t : String) : (Value.text s).isText t = decide (s = t) := by
  rw [Value.isText, Bool.eq_iff_iff, beq_iff_eq, decide_eq_true_iff]

/-- The own name of a type, or the standard one where there is none. -/
theorem nativeType_of_usable (h : MayHaveText row "udt_name")
    (h' : textOf row "udt_name" = "" → HasText row "data_type") :
    nativeType row = .ok (.text (textOr row "udt_name" (textOf row "data_type"))) := by
  rw [nativeType, column?_of_mayHaveText h, textOr]
  by_cases hempty : textOf row "udt_name" = ""
  · rw [if_pos hempty, if_pos ((isEmpty_ofOption _).mpr hempty), column_of_hasText (h' hempty)]
  · rw [if_neg hempty, if_neg fun h => hempty ((isEmpty_ofOption _).mp h),
      ofOption_text? hempty]

/-! ### Records -/

theorem textIn_text {input : List (String × Value)} {s : String}
    (h : input.lookup name = some (.text s)) : textIn input name = .valid s := by
  rw [textIn, h]
  rfl

theorem textIn?_ofOption {input : List (String × Value)} {s? : Option String}
    (h : input.lookup name = some (.ofOption s?)) : textIn? input name = .valid s? := by
  rw [textIn?, h]
  cases s? <;> rfl

/-- A usable row gives the column that it describes. -/
theorem columnOfRow_of_usable (h : UsableRow row .columns) :
    columnOfRow row = .ok (columnDescribed row) := by
  obtain ⟨hname, hudt, hdata, hnullable, hdefault, hcomment⟩ := h
  rw [columnOfRow, column_of_hasText hname, nativeType_of_usable hudt hdata,
    column_of_hasText hnullable, column?_of_mayHaveText hdefault,
    orElse_null_of_mayHaveText hcomment]
  dsimp only [bind, Except.bind]
  rw [textIn_text (by rfl), textIn_text (by rfl), textIn?_ofOption (by rfl),
    textIn?_ofOption (by rfl), isText_text]
  rfl

theorem columnsOfRows_of_usable {rows : List Row} (h : ∀ row ∈ rows, UsableRow row .columns) :
    columnsOfRows rows = .ok (rows.map columnDescribed) := by
  induction rows with
  | nil => rfl
  | cons row rows ih =>
    rw [columnsOfRows, columnOfRow_of_usable (h row List.mem_cons_self),
      ih fun other hother => h other (List.mem_cons_of_mem _ hother)]
    rfl

/-- Texts make up a table. -/
theorem tableOf_text (name schemaName : String) (columns : List Column) :
    tableOf (.text name) (.text schemaName) columns = .ok ⟨name, schemaName, columns⟩ := by
  rw [tableOf]
  rw [textIn_text (by rfl), textIn_text (by rfl)]
  rfl

/-- A usable row gives the enum type that it describes. -/
theorem enumOfRow_of_usable (schemaName : String) (h : UsableRow row .enums) :
    enumOfRow (.text schemaName) row = .ok (enumDescribed schemaName row) := by
  obtain ⟨hname, hschema⟩ := h
  rw [enumOfRow, column_of_hasText hname, orElse_of_mayHaveText hschema]
  dsimp only [bind, Except.bind]
  rw [textIn_text (by rfl), textIn_text (by rfl)]
  rfl

theorem enumsOfRows_of_usable (schemaName : String) {rows : List Row}
    (h : ∀ row ∈ rows, UsableRow row .enums) :
    enumsOfRows (.text schemaName) rows = .ok (rows.map (enumDescribed schemaName)) := by
  induction rows with
  | nil => rfl
  | cons row rows ih =>
    rw [enumsOfRows, enumOfRow_of_usable schemaName (h row List.mem_cons_self),
      ih fun other hother => h other (List.mem_cons_of_mem _ hother)]
    rfl

/-- A text names a schema. -/
theorem schemaOf_text (schemaName : String) (tables : List Table) (enums : List EnumType) :
    schemaOf (.text schemaName) tables enums = .ok ⟨schemaName, tables, enums⟩ := by
  rw [schemaOf]
  rw [textIn_text (by rfl)]
  rfl

end Usable

end Introspection
end SchemaTypes

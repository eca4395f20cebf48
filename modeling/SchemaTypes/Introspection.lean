import SchemaTypes.ArrayLiteral
import SchemaTypes.Introspection.Error
import SchemaTypes.Log
import SchemaTypes.Validation.SchemaRecords

/-!
# Introspection

Reads one schema through an executor. The queries run one at a time: the tables first, then the
columns of each table in the order of the table rows, then the enums. The first query that fails
and the first row that cannot be used end the run, and nothing is asked after that.

A run keeps account of the queries it has issued, the failing one included, and of what it has
reported. Both are part of its outcome whether or not there is a schema at the end.
-/

namespace SchemaTypes
namespace Introspection

/-- What a run has done so far. -/
structure Progress where
  queries : List Query
  log : List Log.Entry

/-- A computation that issues queries, reports, and may end early. -/
abbrev Run := ExceptT Error (StateM Progress)

/-- Issues a query and waits for its rows. -/
def ask (executor : Executor) (query : Query) : Run (List Row) := do
  let before ← get
  set { before with queries := before.queries ++ [query] }
  match executor before.queries query with
  | .ok rows => pure rows
  | .error failure =>
    throw (.query ⟨query.stage, query.schemaName, query.tableName, some failure⟩)

/-- Reports. -/
def report (level : Log.Level) (text : String) : Run Unit :=
  modify fun progress =>
    { progress with log := progress.log ++ [⟨level, .introspection, text⟩] }

/-! ## Rows -/

/-- A column that a row has to have. -/
def column (row : Row) (name : String) : Except Error Value :=
  match row.lookup name with
  | some value => .ok value
  | none => .error (.missingColumn name)

/-- A column that a row may lack. -/
def column? (row : Row) (name : String) : Value :=
  (row.lookup name).getD .null

/-- A value, or another one in place of an empty value. -/
def orElse (value other : Value) : Value :=
  if value.isEmpty then other else value

/-- A record made from the given values, if its check found nothing wrong. -/
def accept {α : Type} (record : String) (input : List (String × Value)) (checked : Checked α) :
    Except Error α :=
  match checked with
  | .valid value => .ok value
  | .invalid issues => .error (.invalidRecord ⟨record, input, issues⟩)

/-- A text among the values that a record is made from. -/
def textIn (input : List (String × Value)) (name : String) : Checked String :=
  (Check.text ((input.lookup name).getD .null)).under (.field name)

/-- A text among the values that a record is made from, or null. -/
def textIn? (input : List (String × Value)) (name : String) : Checked (Option String) :=
  (Check.optional Check.text ((input.lookup name).getD .null)).under (.field name)

/-- The native type of a column: its own name for it, or the standard's where it has none. The own
name tells what the standard one hides behind `ARRAY` and `USER-DEFINED`. -/
def nativeType (row : Row) : Except Error Value :=
  let own := column? row "udt_name"
  if own.isEmpty then column row "data_type" else .ok own

/-- The column that a row describes. An empty description is no comment. -/
def columnOfRow (row : Row) : Except Error Column := do
  let name ← column row "column_name"
  let native ← nativeType row
  let nullable ← column row "is_nullable"
  let input := [("name", name), ("native_type", native),
    ("default_value", column? row "column_default"),
    ("comment", orElse (column? row "description") .null)]
  accept "Column" input (Column.mk <$> textIn input "name" <*> textIn input "native_type"
    <*> pure (nullable.isText "YES") <*> textIn? input "default_value"
    <*> textIn? input "comment")

/-- The columns that rows describe, up to the first that describes none. -/
def columnsOfRows : List Row → Except Error (List Column)
  | [] => .ok []
  | row :: rest => do
    let first ← columnOfRow row
    let others ← columnsOfRows rest
    return first :: others

/-- The table of the given name, schema and columns. -/
def tableOf (name schemaName : Value) (columns : List Column) : Except Error Table :=
  let input := [("name", name), ("schema_name", schemaName)]
  accept "Table" input (Table.mk <$> textIn input "name" <*> textIn input "schema_name"
    <*> pure columns)

/-- The enum type that a row describes. -/
def enumOfRow (schemaName : Value) (row : Row) : Except Error EnumType := do
  let name ← column row "typname"
  let labels := ArrayLiteral.labels (column? row "enumlabels")
  let input := [("name", name), ("schema_name", orElse (column? row "nspname") schemaName)]
  accept "EnumType" input (EnumType.mk <$> textIn input "name" <*> textIn input "schema_name"
    <*> pure labels)

/-- The schema of the given name, tables and enum types. -/
def schemaOf (schemaName : Value) (tables : List Table) (enums : List EnumType) :
    Except Error DatabaseSchema :=
  let input := [("schema_name", schemaName)]
  accept "DatabaseSchema" input (DatabaseSchema.mk <$> textIn input "schema_name" <*> pure tables
    <*> pure enums)

/-- The enum types that rows describe, up to the first that describes none. -/
def enumsOfRows (schemaName : Value) : List Row → Except Error (List EnumType)
  | [] => .ok []
  | row :: rest => do
    let first ← enumOfRow schemaName row
    let others ← enumsOfRows schemaName rest
    return first :: others

/-! ## The run -/

/-- Asks for the columns of a table. -/
def fetchColumns (executor : Executor) (tableName schemaName : Value) : Run (List Column) := do
  let rows ← ask executor (.columns tableName schemaName)
  columnsOfRows rows

/-- Reads the table of a row, with its columns. A row without a schema means the schema asked
for. -/
def fetchTable (executor : Executor) (schemaName : Value) (row : Row) : Run Table := do
  let name ← column row "table_name"
  let tableSchema := orElse (column? row "table_schema") schemaName
  let columns ← fetchColumns executor name tableSchema
  report .debug ("Table " ++ tableSchema.toText ++ "." ++ name.toText ++ " has "
    ++ columns.length.repr ++ " columns")
  tableOf name tableSchema columns

/-- Reads the tables of rows, in order. -/
def fetchTablesOf (executor : Executor) (schemaName : Value) : List Row → Run (List Table)
  | [] => pure []
  | row :: rest => do
    let first ← fetchTable executor schemaName row
    let others ← fetchTablesOf executor schemaName rest
    return first :: others

/-- Reads the tables of a schema. -/
def fetchTables (executor : Executor) (schemaName : Value) : Run (List Table) := do
  let rows ← ask executor (.tables schemaName)
  fetchTablesOf executor schemaName rows

/-- Reads the enum types of a schema. -/
def fetchEnums (executor : Executor) (schemaName : Value) : Run (List EnumType) := do
  let rows ← ask executor (.enums schemaName)
  enumsOfRows schemaName rows

/-- Reads a schema. Whether its name is a text is not looked at before everything is read. -/
def fetchSchema (executor : Executor) (schemaName : Value) : Run DatabaseSchema := do
  let tables ← fetchTables executor schemaName
  let enums ← fetchEnums executor schemaName
  report .info ("Introspected " ++ tables.length.repr ++ " tables and " ++ enums.length.repr
    ++ " enums from schema " ++ schemaName.toText)
  schemaOf schemaName tables enums

/-- What an introspection leaves behind: the schema or the error, the queries in the order in
which they were issued, and the reports. -/
structure Outcome where
  result : Except Error DatabaseSchema
  queries : List Query
  log : List Log.Entry

end Introspection

open Introspection in
/-- Introspects one schema through an executor. -/
def introspect (executor : Executor) (schemaName : Value) : Outcome :=
  let (result, progress) := (fetchSchema executor schemaName).run.run ⟨[], []⟩
  ⟨result, progress.queries, progress.log⟩

end SchemaTypes

import SchemaTypes.Schema

/-!
# Name collisions

Unions and interfaces share one namespace in the generated file, and the members of an interface
need names of their own. A schema is fit for generation when no two enums, no two tables, no enum
and table, and no two columns of one table have the same name. The check reports the first kind of
collision in this order, and with it every name concerned, each once and in code point order;
repeated enum names stand before repeated table names.
-/

namespace SchemaTypes

/-- A reason why a schema has no unambiguous declarations. -/
inductive Collision where
  /-- Enum names, or table names, that occur more than once. -/
  | repeatedTypes (schemaName : String) (names : List String)
  /-- Names that an enum and a table share. -/
  | enumAndTable (schemaName : String) (names : List String)
  /-- Column names that occur more than once in one table. -/
  | repeatedColumns (tableName : String) (names : List String)
deriving Repr, DecidableEq

namespace Collision

/-- The text of a collision. -/
def message : Collision → String
  | .repeatedTypes schemaName names =>
    "Duplicate type names in schema " ++ schemaName ++ ": " ++ ", ".intercalate names
  | .enumAndTable schemaName names =>
    "Enum and table names collide in schema " ++ schemaName ++ ": " ++ ", ".intercalate names
  | .repeatedColumns tableName names =>
    "Duplicate column names in table " ++ tableName ++ ": " ++ ", ".intercalate names

end Collision

/-- Each name once, in code point order. -/
def sortedNames (names : List String) : List String :=
  names.eraseDups.mergeSort fun a b => decide (¬ b < a)

/-- The names that occur more than once, each once and in code point order. -/
def repeatedNames (names : List String) : List String :=
  sortedNames (names.filter fun name => 1 < names.count name)

/-- The names that two lists share, each once and in code point order. -/
def sharedNames (names others : List String) : List String :=
  sortedNames (names.filter fun name => others.contains name)

/-- The first table with repeated column names, if there is one. -/
def columnCollision? : List Table → Option Collision
  | [] => none
  | table :: rest =>
    match repeatedNames (table.columns.map (·.name)) with
    | [] => columnCollision? rest
    | name :: names => some (.repeatedColumns table.name (name :: names))

/-- The collision to report for a schema, if it has any. -/
def DatabaseSchema.collision? (schema : DatabaseSchema) : Option Collision :=
  match repeatedNames schema.enumNames ++ repeatedNames schema.tableNames with
  | name :: names => some (.repeatedTypes schema.schemaName (name :: names))
  | [] =>
    match sharedNames schema.enumNames schema.tableNames with
    | name :: names => some (.enumAndTable schema.schemaName (name :: names))
    | [] => columnCollision? schema.tables

end SchemaTypes

/-!
# Database schemas

What the catalogue of a database says about one schema: its base tables with their columns in
ordinal order, and its enum types with their labels in declared order. A column names its type the
way the catalogue does (`int4`, `_text`, `user_role`); its default is kept verbatim and never
evaluated.
-/

namespace SchemaTypes

/-- A column of a table. -/
structure Column where
  name : String
  /-- The catalogue's name of the column's type, such as `int4` or `_text`. -/
  nativeType : String
  isNullable : Bool
  /-- The default expression as the catalogue spells it. -/
  defaultValue : Option String
  comment : Option String
deriving Repr, DecidableEq

/-- A base table with its columns in ordinal order. -/
structure Table where
  name : String
  schemaName : String
  columns : List Column
deriving Repr, DecidableEq

/-- An enum type with its labels in declared order. -/
structure EnumType where
  name : String
  schemaName : String
  labels : List String
deriving Repr, DecidableEq

/-- The tables and enum types of one schema. -/
structure DatabaseSchema where
  schemaName : String
  tables : List Table
  enums : List EnumType
deriving Repr, DecidableEq

namespace DatabaseSchema

/-- The schema that is meant when none is named. -/
def defaultName : String := "public"

/-- The names of the enum types, in order. -/
def enumNames (schema : DatabaseSchema) : List String :=
  schema.enums.map (·.name)

/-- The names of the tables, in order. -/
def tableNames (schema : DatabaseSchema) : List String :=
  schema.tables.map (·.name)

end DatabaseSchema
end SchemaTypes

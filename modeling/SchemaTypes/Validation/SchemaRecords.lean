import SchemaTypes.Schema
import SchemaTypes.Validation

/-!
# Schema records

Columns, tables, enum types and schemas from the maps that describe them, and the maps that
describe them. A map written from a record gives the same record back.
-/

namespace SchemaTypes

namespace Value

/-- The value of a text that may be absent. -/
def ofOption : Option String → Value
  | none => .null
  | some s => .text s

/-- A map with texts as keys. -/
def ofFields (fields : List (String × Value)) : Value :=
  .map (fields.map fun field => (.text field.1, field.2))

/-- A list of texts. -/
def ofTexts (texts : List String) : Value :=
  .list (texts.map .text)

end Value

namespace Column

/-- Checks the fields of a column. -/
def check (entries : List (Value × Value)) : Checked Column :=
  Column.mk <$> Check.required entries "name" Check.text
    <*> Check.required entries "native_type" Check.text
    <*> Check.required entries "is_nullable" Check.flag
    <*> Check.withDefault entries "default_value" none (Check.optional Check.text)
    <*> Check.withDefault entries "comment" none (Check.optional Check.text)

/-- The map that describes a column. -/
def toValue (column : Column) : Value :=
  .ofFields [("name", .text column.name), ("native_type", .text column.nativeType),
    ("is_nullable", .bool column.isNullable), ("default_value", .ofOption column.defaultValue),
    ("comment", .ofOption column.comment)]

end Column

namespace Table

/-- Checks the fields of a table. -/
def check (entries : List (Value × Value)) : Checked Table :=
  Table.mk <$> Check.required entries "name" Check.text
    <*> Check.required entries "schema_name" Check.text
    <*> Check.withDefault entries "columns" []
      (Check.listOf (Check.record "Column" Column.check))

/-- The map that describes a table. -/
def toValue (table : Table) : Value :=
  .ofFields [("name", .text table.name), ("schema_name", .text table.schemaName),
    ("columns", .list (table.columns.map (·.toValue)))]

end Table

namespace EnumType

/-- Checks the fields of an enum type. -/
def check (entries : List (Value × Value)) : Checked EnumType :=
  EnumType.mk <$> Check.required entries "name" Check.text
    <*> Check.required entries "schema_name" Check.text
    <*> Check.withDefault entries "labels" [] (Check.listOf Check.text)

/-- The map that describes an enum type. -/
def toValue (enum : EnumType) : Value :=
  .ofFields [("name", .text enum.name), ("schema_name", .text enum.schemaName),
    ("labels", .ofTexts enum.labels)]

end EnumType

namespace DatabaseSchema

/-- Checks the fields of a schema. -/
def check (entries : List (Value × Value)) : Checked DatabaseSchema :=
  DatabaseSchema.mk <$> Check.withDefault entries "schema_name" defaultName Check.text
    <*> Check.withDefault entries "tables" [] (Check.listOf (Check.record "Table" Table.check))
    <*> Check.withDefault entries "enums" []
      (Check.listOf (Check.record "EnumType" EnumType.check))

/-- The map that describes a schema. -/
def toValue (schema : DatabaseSchema) : Value :=
  .ofFields [("schema_name", .text schema.schemaName),
    ("tables", .list (schema.tables.map (·.toValue))),
    ("enums", .list (schema.enums.map (·.toValue)))]

end DatabaseSchema
end SchemaTypes

import SchemaTypes.Declaration
import SchemaTypes.Declaration.Collision
import SchemaTypes.Log
import SchemaTypes.TypeMap

/-!
# Declarations of a schema

A schema without colliding names becomes one union per enum, one interface per table and one
registry entry per table, all in the schema's order. Nothing is renamed, dropped or evaluated on
the way.

The native types that neither are enums nor stand in the table of types end up as `unknown`. Each
of them is reported once, with the table and the column where it is seen first.
-/

namespace SchemaTypes

/-- The union of an enum's labels, in declared order. -/
def EnumType.declaration (enum : EnumType) : UnionDeclaration where
  name := enum.name
  members := enum.labels

/-- The interface member of a column. -/
def Column.property (column : Column) (enumNames : List String) : Property where
  name := column.name
  typeExpression := column.typeExpression enumNames
  comment := column.comment
  defaultValue := column.defaultValue

/-- The interface of a table's rows. -/
def Table.declaration (table : Table) (enumNames : List String) : InterfaceDeclaration where
  name := table.name
  properties := table.columns.map (·.property enumNames)

/-- A table's own entry: it is registered under its name with the interface of the same name. -/
def Table.registryEntry (table : Table) : RegistryEntry where
  tableName := table.name
  interfaceName := table.name

namespace DatabaseSchema

/-- The declarations of a schema whose names do not collide. -/
def declarationFile (schema : DatabaseSchema) : DeclarationFile where
  unions := schema.enums.map (·.declaration)
  interfaces := schema.tables.map (·.declaration schema.enumNames)
  registry := .ofEntries (schema.tables.map (·.registryEntry))

/-- A use of a native type: the type, the table and the column. -/
structure TypeUse where
  nativeType : String
  tableName : String
  columnName : String
deriving Repr, DecidableEq

/-- Every use of a native type, tables in order and columns in order. -/
def typeUses (schema : DatabaseSchema) : List TypeUse :=
  schema.tables.flatMap fun table =>
    table.columns.map fun column => ⟨column.nativeType, table.name, column.name⟩

/-- Whether a native type is neither an enum's name nor in the table of types. -/
def isUnmapped (schema : DatabaseSchema) (nativeType : String) : Bool :=
  !schema.enumNames.contains nativeType && !TypeMap.isMapped nativeType

/-- Keeps the first use of every native type. -/
def firstUses (seen : List String) : List TypeUse → List TypeUse
  | [] => []
  | use :: rest =>
    if seen.contains use.nativeType then firstUses seen rest
    else use :: firstUses (use.nativeType :: seen) rest

/-- The first use of every native type that is not mapped. -/
def unmappedUses (schema : DatabaseSchema) : List TypeUse :=
  firstUses [] (schema.typeUses.filter fun use => schema.isUnmapped use.nativeType)

/-- The report of a native type that is not mapped. -/
def TypeUse.report (use : TypeUse) : Log.Entry where
  level := .info
  source := .builder
  text := "No TypeScript mapping for type " ++ use.nativeType ++ " (first seen on "
    ++ use.tableName ++ "." ++ use.columnName ++ "), using unknown"

/-- What building declarations leaves behind: the file or the collision, and the reports. -/
structure Built where
  outcome : Except Collision DeclarationFile
  log : List Log.Entry

/-- Builds the declarations of a schema. A schema with a collision has no declarations and nothing
is reported for it. -/
def build (schema : DatabaseSchema) : Built :=
  match schema.collision? with
  | some collision => ⟨.error collision, []⟩
  | none => ⟨.ok schema.declarationFile, schema.unmappedUses.map (·.report)⟩

end DatabaseSchema
end SchemaTypes

import SchemaTypes.Schema

/-!
# Types of columns

How a native type of the database is written in TypeScript. An enum of the schema stands for
itself, even where its name is that of a built-in type; a type in the table has its entry; every
other type is `unknown`. The table lists the scalar types and, for each, its one-dimensional
array, whose native name is the scalar's behind an underscore.
-/

namespace SchemaTypes
namespace TypeMap

/-- What a scalar type of the database becomes. -/
inductive Scalar where
  | number
  | string
  | boolean
  | date
  | unknown
deriving Repr, DecidableEq

/-- The TypeScript spelling of a scalar. -/
def Scalar.text : Scalar → String
  | .number => "number"
  | .string => "string"
  | .boolean => "boolean"
  | .date => "Date"
  | .unknown => "unknown"

/-- The scalar types by native name. Integers of eight bytes and exact numerics are strings
because they exceed what a number holds exactly; the inside of a JSON document is not looked
at. -/
def scalars : List (String × Scalar) := [
  ("int2", .number), ("int4", .number), ("int8", .string), ("float4", .number),
  ("float8", .number), ("numeric", .string), ("money", .string),
  ("varchar", .string), ("char", .string), ("bpchar", .string), ("text", .string),
  ("citext", .string), ("uuid", .string),
  ("bool", .boolean),
  ("timestamp", .date), ("timestamptz", .date), ("date", .date), ("time", .string),
  ("timetz", .string), ("interval", .string),
  ("json", .unknown), ("jsonb", .unknown),
  ("inet", .string), ("cidr", .string), ("macaddr", .string), ("macaddr8", .string),
  ("point", .string), ("line", .string), ("lseg", .string), ("box", .string),
  ("path", .string), ("polygon", .string), ("circle", .string)]

/-- The native name and the TypeScript type of every mapped type: the scalars, then their
arrays. -/
def table : List (String × String) :=
  scalars.map (fun entry => (entry.1, entry.2.text))
    ++ scalars.map (fun entry => ("_" ++ entry.1, entry.2.text ++ "[]"))

/-- The type of whatever the table does not list. -/
def unknownType : String := Scalar.unknown.text

/-- Whether the table lists a native type. -/
def isMapped (nativeType : String) : Bool :=
  (table.lookup nativeType).isSome

/-- The TypeScript type of a native type in a schema with the given enum names. -/
def mapType (nativeType : String) (enumNames : List String) : String :=
  if nativeType ∈ enumNames then nativeType
  else (table.lookup nativeType).getD unknownType

/-- Adds `null` to the type of a nullable column. -/
def applyNullability (baseType : String) (isNullable : Bool) : String :=
  if isNullable then baseType ++ " | null" else baseType

end TypeMap

/-- The type expression of a column, nullability included. -/
def Column.typeExpression (column : Column) (enumNames : List String) : String :=
  TypeMap.applyNullability (TypeMap.mapType column.nativeType enumNames) column.isNullable

end SchemaTypes

/-!
# Declarations

What goes into a generated file, independent of how it is laid out: unions of string literals, one
per enum type; interfaces, one per table; and the registry, which tells the query builder's module
which interface describes which table.
-/

namespace SchemaTypes

/-- A union of string literals. -/
structure UnionDeclaration where
  name : String
  members : List String
deriving Repr, DecidableEq

/-- A member of an interface. -/
structure Property where
  name : String
  typeExpression : String
  comment : Option String
  /-- The default expression, verbatim. -/
  defaultValue : Option String
deriving Repr, DecidableEq

/-- A record type with its members in order. -/
structure InterfaceDeclaration where
  name : String
  properties : List Property
deriving Repr, DecidableEq

/-- Binds the name of a table to the interface that describes its rows. -/
structure RegistryEntry where
  tableName : String
  interfaceName : String
deriving Repr, DecidableEq

namespace Registry

/-- The module of the query builder that lists the known tables. -/
def tablesModule : String := "knex/types/tables"

/-- The interface of that module whose members are the known tables. -/
def tablesInterface : String := "Tables"

end Registry

/-- The augmentation of the query builder's module. -/
structure Registry where
  moduleName : String
  interfaceName : String
  entries : List RegistryEntry
deriving Repr, DecidableEq

/-- Registers the given entries in the query builder's own module. -/
def Registry.ofEntries (entries : List RegistryEntry) : Registry where
  moduleName := tablesModule
  interfaceName := tablesInterface
  entries

/-- Everything that goes into one file, in order. -/
structure DeclarationFile where
  unions : List UnionDeclaration
  interfaces : List InterfaceDeclaration
  registry : Registry
deriving Repr, DecidableEq

end SchemaTypes

import SchemaTypes.Declaration
import SchemaTypes.Validation.SchemaRecords

/-!
# Declaration records

Declarations from the maps that describe them, and the maps that describe them. A map written from
a declaration gives the same declaration back.
-/

namespace SchemaTypes

namespace UnionDeclaration

/-- Checks the fields of a union. -/
def check (entries : List (Value × Value)) : Checked UnionDeclaration :=
  UnionDeclaration.mk <$> Check.required entries "name" Check.text
    <*> Check.withDefault entries "members" [] (Check.listOf Check.text)

/-- The map that describes a union. -/
def toValue (union : UnionDeclaration) : Value :=
  .ofFields [("name", .text union.name), ("members", .ofTexts union.members)]

end UnionDeclaration

namespace Property

/-- Checks the fields of an interface member. -/
def check (entries : List (Value × Value)) : Checked Property :=
  Property.mk <$> Check.required entries "name" Check.text
    <*> Check.required entries "type_expression" Check.text
    <*> Check.withDefault entries "comment" none (Check.optional Check.text)
    <*> Check.withDefault entries "default_value" none (Check.optional Check.text)

/-- The map that describes an interface member. -/
def toValue (property : Property) : Value :=
  .ofFields [("name", .text property.name), ("type_expression", .text property.typeExpression),
    ("comment", .ofOption property.comment), ("default_value", .ofOption property.defaultValue)]

end Property

namespace InterfaceDeclaration

/-- Checks the fields of an interface. -/
def check (entries : List (Value × Value)) : Checked InterfaceDeclaration :=
  InterfaceDeclaration.mk <$> Check.required entries "name" Check.text
    <*> Check.withDefault entries "properties" []
      (Check.listOf (Check.record "FieldDeclaration" Property.check))

/-- The map that describes an interface. -/
def toValue (interface : InterfaceDeclaration) : Value :=
  .ofFields [("name", .text interface.name),
    ("properties", .list (interface.properties.map (·.toValue)))]

end InterfaceDeclaration

namespace RegistryEntry

/-- Checks the fields of a registry entry. -/
def check (entries : List (Value × Value)) : Checked RegistryEntry :=
  RegistryEntry.mk <$> Check.required entries "table_name" Check.text
    <*> Check.required entries "interface_name" Check.text

/-- The map that describes a registry entry. -/
def toValue (entry : RegistryEntry) : Value :=
  .ofFields [("table_name", .text entry.tableName), ("interface_name", .text entry.interfaceName)]

end RegistryEntry

namespace Registry

/-- Checks the fields of a registry. -/
def check (entries : List (Value × Value)) : Checked Registry :=
  Registry.mk <$> Check.withDefault entries "module" tablesModule Check.text
    <*> Check.withDefault entries "interface_name" tablesInterface Check.text
    <*> Check.withDefault entries "entries" []
      (Check.listOf (Check.record "RegistryEntry" RegistryEntry.check))

/-- The map that describes a registry. -/
def toValue (registry : Registry) : Value :=
  .ofFields [("module", .text registry.moduleName),
    ("interface_name", .text registry.interfaceName),
    ("entries", .list (registry.entries.map (·.toValue)))]

end Registry

namespace DeclarationFile

/-- Checks the fields of a declaration file. -/
def check (entries : List (Value × Value)) : Checked DeclarationFile :=
  DeclarationFile.mk
    <$> Check.withDefault entries "unions" []
      (Check.listOf (Check.record "UnionDeclaration" UnionDeclaration.check))
    <*> Check.withDefault entries "interfaces" []
      (Check.listOf (Check.record "InterfaceDeclaration" InterfaceDeclaration.check))
    <*> Check.withDefault entries "registry" (.ofEntries [])
      (Check.record "RegistryDeclaration" Registry.check)

/-- The map that describes a declaration file. -/
def toValue (file : DeclarationFile) : Value :=
  .ofFields [("unions", .list (file.unions.map (·.toValue))),
    ("interfaces", .list (file.interfaces.map (·.toValue))),
    ("registry", file.registry.toValue)]

end DeclarationFile
end SchemaTypes

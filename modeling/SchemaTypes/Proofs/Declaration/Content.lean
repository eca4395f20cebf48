import Mathlib.Data.List.Forall2
import SchemaTypes.Proofs.Declaration.Collision

/-!
# The content of a declaration file

What a built file says about its schema, stated without the functions that build it. A file
describes a schema (`Describes`) if it goes through the enums, the tables and the columns in their
order and says about each what there is to say, if each registry entry names exactly one interface
of the file, which is that of its table, and if nothing in the file could be taken for something
else. Native types are looked up in the file itself: a type that is an enum of the schema has to be
the name of a union that the file declares.

A schema is built into a file just if the file describes it (`outcome_build_eq_ok_iff_describes`).
So built files are complete and closed, no other file would do, and a schema is rejected only if no
file describes it.
-/

namespace SchemaTypes

/-! ## The table of types -/

namespace TypeMap

/-- No native type is listed twice. -/
theorem nodup_table : (table.map Prod.fst).Nodup := by
  decide

/-- Looking up a native type finds the one entry that there is. -/
theorem lookup_table_eq_some_iff {nativeType type : String} :
    table.lookup nativeType = some type ↔ (nativeType, type) ∈ table := by
  rw [List.lookup_eq_some_iff]
  constructor
  · rintro ⟨before, after, htable, -⟩
    rw [htable]
    exact List.mem_append_right _ List.mem_cons_self
  · intro hmem
    obtain ⟨before, after, htable⟩ := List.append_of_mem hmem
    refine ⟨before, after, htable, fun entry hentry => ?_⟩
    -- An entry before this one with the same native type would make it listed twice.
    have hnodup := nodup_table
    rw [htable, List.map_append, List.map_cons] at hnodup
    have hne : entry.1 ≠ nativeType :=
      (List.nodup_append.mp hnodup).2.2 _ (List.mem_map_of_mem hentry) _ List.mem_cons_self
    simpa using hne.symm

end TypeMap

/-! ## Descriptions -/

section Descriptions

variable (schema : DatabaseSchema) (file : DeclarationFile)

/-- What a native type of a schema is called in a file. -/
inductive TypeName (nativeType : String) : String → Prop
  /-- An enum of the schema, whatever else its name may mean, is a union of the file. -/
  | union {declaration : UnionDeclaration} :
    nativeType ∈ schema.enumNames → declaration ∈ file.unions → declaration.name = nativeType →
      TypeName nativeType declaration.name
  | listed {type : String} :
    nativeType ∉ schema.enumNames → (nativeType, type) ∈ TypeMap.table → TypeName nativeType type
  | unlisted :
    nativeType ∉ schema.enumNames → (∀ type, (nativeType, type) ∉ TypeMap.table) →
      TypeName nativeType "unknown"

/-- A member of an interface says all there is to say about a column. -/
structure DescribesColumn (column : Column) (property : Property) : Prop where
  name : property.name = column.name
  comment : property.comment = column.comment
  defaultValue : property.defaultValue = column.defaultValue
  type : ∃ baseType, TypeName schema file column.nativeType baseType ∧
    property.typeExpression = if column.isNullable then baseType ++ " | null" else baseType

/-- An interface says all there is to say about a table. -/
structure DescribesTable (table : Table) (interface : InterfaceDeclaration) : Prop where
  name : interface.name = table.name
  properties : List.Forall₂ (DescribesColumn schema file) table.columns interface.properties

/-- A union says all there is to say about an enum. -/
structure DescribesEnum (enum : EnumType) (union : UnionDeclaration) : Prop where
  name : union.name = enum.name
  members : union.members = enum.labels

/-- An entry of the registry leads from the name of a table to the one interface of the file that
says all there is to say about this table. -/
structure DescribesEntry (table : Table) (entry : RegistryEntry) : Prop where
  tableName : entry.tableName = table.name
  interface : ∃ interface, DescribesTable schema file table interface ∧
    file.interfaces.filter (·.name = entry.interfaceName) = [interface]

/-- All names that a file declares. -/
def DeclarationFile.declaredNames : List String :=
  file.unions.map (·.name) ++ file.interfaces.map (·.name)

/-- A file says all there is to say about a schema, and nothing that could be misunderstood. -/
structure Describes : Prop where
  unions : List.Forall₂ DescribesEnum schema.enums file.unions
  interfaces : List.Forall₂ (DescribesTable schema file) schema.tables file.interfaces
  moduleName : file.registry.moduleName = Registry.tablesModule
  registryName : file.registry.interfaceName = Registry.tablesInterface
  entries : List.Forall₂ (DescribesEntry schema file) schema.tables file.registry.entries
  declaredNames : file.declaredNames.Nodup
  members : ∀ interface ∈ file.interfaces, (interface.properties.map (·.name)).Nodup

end Descriptions

/-! ## Descriptions, item by item -/

/-- What goes item by item from one list to another by a function is the image of the list. -/
theorem forall₂_iff_map_eq {α β : Type} {f : α → β} {as : List α} {bs : List β} :
    List.Forall₂ (fun a b => f a = b) as bs ↔ as.map f = bs := by
  rw [← List.forall₂_map_left_iff (R := Eq), List.forall₂_eq_eq_eq]

theorem describesEnum_iff {enum : EnumType} {union : UnionDeclaration} :
    DescribesEnum enum union ↔ enum.declaration = union := by
  obtain ⟨name, members⟩ := union
  rw [EnumType.declaration, UnionDeclaration.mk.injEq]
  exact ⟨fun h => ⟨h.name.symm, h.members.symm⟩, fun h => ⟨h.1.symm, h.2.symm⟩⟩

/-- The unions of a file are those of the enums of a schema just if they have to be. -/
theorem forall₂_describesEnum_iff {enums : List EnumType} {unions : List UnionDeclaration} :
    List.Forall₂ DescribesEnum enums unions ↔ enums.map (·.declaration) = unions := by
  have hdescribes : DescribesEnum = fun enum union => enum.declaration = union := by
    funext enum union
    exact propext describesEnum_iff
  rw [hdescribes, forall₂_iff_map_eq]

section Described

variable {schema : DatabaseSchema} {file : DeclarationFile}

/-- In a file with the unions of a schema, a native type has the name that it is mapped to. -/
theorem typeName_iff (hunions : schema.enums.map (·.declaration) = file.unions)
    {nativeType baseType : String} :
    TypeName schema file nativeType baseType ↔
      TypeMap.mapType nativeType schema.enumNames = baseType := by
  rw [TypeMap.mapType]
  by_cases hmem : nativeType ∈ schema.enumNames
  · rw [if_pos hmem]
    constructor
    · rintro (⟨-, -, hname⟩ | ⟨hnot, -⟩ | ⟨hnot, -⟩)
      · exact hname.symm
      · exact absurd hmem hnot
      · exact absurd hmem hnot
    · rintro rfl
      obtain ⟨enum, henum, hname⟩ := List.mem_map.mp hmem
      have hunion : enum.declaration ∈ file.unions := hunions ▸ List.mem_map_of_mem henum
      exact hname ▸ TypeName.union (hname.symm ▸ hmem) hunion rfl
  · rw [if_neg hmem]
    constructor
    · rintro (⟨hmem', -, -⟩ | ⟨-, hlisted⟩ | ⟨-, hunlisted⟩)
      · exact absurd hmem' hmem
      · rw [TypeMap.lookup_table_eq_some_iff.mpr hlisted, Option.getD_some]
      · have hlookup : TypeMap.table.lookup nativeType = none := by
          rw [Option.eq_none_iff_forall_ne_some]
          intro type h
          exact hunlisted type (TypeMap.lookup_table_eq_some_iff.mp h)
        rw [hlookup, Option.getD_none]
        rfl
    · rintro rfl
      cases hlookup : TypeMap.table.lookup nativeType with
      | some type => exact .listed hmem (TypeMap.lookup_table_eq_some_iff.mp hlookup)
      | none =>
        refine .unlisted hmem fun type hlisted => ?_
        rw [TypeMap.lookup_table_eq_some_iff.mpr hlisted] at hlookup
        cases hlookup

theorem describesColumn_iff (hunions : schema.enums.map (·.declaration) = file.unions)
    {column : Column} {property : Property} :
    DescribesColumn schema file column property ↔
      column.property schema.enumNames = property := by
  obtain ⟨name, typeExpression, comment, defaultValue⟩ := property
  rw [Column.property, Property.mk.injEq]
  constructor
  · rintro ⟨rfl, rfl, rfl, baseType, hbase, rfl⟩
    rw [typeName_iff hunions] at hbase
    rw [← hbase]
    exact ⟨rfl, rfl, rfl, rfl⟩
  · rintro ⟨rfl, rfl, rfl, rfl⟩
    exact ⟨rfl, rfl, rfl, _, (typeName_iff hunions).mpr rfl, rfl⟩

theorem describesTable_iff (hunions : schema.enums.map (·.declaration) = file.unions)
    {table : Table} {interface : InterfaceDeclaration} :
    DescribesTable schema file table interface ↔
      table.declaration schema.enumNames = interface := by
  have hcolumns : DescribesColumn schema file =
      fun column property => column.property schema.enumNames = property := by
    funext column property
    exact propext (describesColumn_iff hunions)
  obtain ⟨name, properties⟩ := interface
  rw [Table.declaration, InterfaceDeclaration.mk.injEq, ← forall₂_iff_map_eq, ← hcolumns]
  exact ⟨fun h => ⟨h.name.symm, h.properties⟩, fun h => ⟨h.1.symm, h.2⟩⟩

/-- The interfaces of a file are those of the tables of a schema just if they have to be. -/
theorem forall₂_describesTable_iff (hunions : schema.enums.map (·.declaration) = file.unions) :
    List.Forall₂ (DescribesTable schema file) schema.tables file.interfaces ↔
      schema.tables.map (·.declaration schema.enumNames) = file.interfaces := by
  have htables : DescribesTable schema file =
      fun table interface => table.declaration schema.enumNames = interface := by
    funext table interface
    exact propext (describesTable_iff hunions)
  rw [htables, forall₂_iff_map_eq]

/-- An entry that describes a table is the one that is made for it. -/
theorem registryEntry_eq_of_describesEntry
    (hunions : schema.enums.map (·.declaration) = file.unions) {table : Table}
    {entry : RegistryEntry} (h : DescribesEntry schema file table entry) :
    table.registryEntry = entry := by
  obtain ⟨htable, interface, hinterface, hfilter⟩ := h
  have hmem : interface ∈ file.interfaces.filter (·.name = entry.interfaceName) :=
    hfilter ▸ List.mem_singleton_self interface
  have hname : interface.name = entry.interfaceName := by
    simpa using List.of_mem_filter hmem
  rw [← (describesTable_iff hunions).mp hinterface] at hname
  obtain ⟨tableName, interfaceName⟩ := entry
  rw [Table.registryEntry, RegistryEntry.mk.injEq]
  exact ⟨htable.symm, hname⟩

/-- Among tables with different names, one table is found by its name, and no other. -/
theorem filter_name_eq {tables : List Table} (h : (tables.map (·.name)).Nodup) {table : Table}
    (hmem : table ∈ tables) : tables.filter (·.name = table.name) = [table] := by
  obtain ⟨before, after, rfl⟩ := List.append_of_mem hmem
  rw [List.map_append, List.map_cons, List.nodup_append, List.nodup_cons] at h
  obtain ⟨-, ⟨hafter, -⟩, hbefore⟩ := h
  have hnone : before.filter (·.name = table.name) = [] := by
    rw [List.filter_eq_nil_iff]
    intro other hother
    simpa using hbefore _ (List.mem_map_of_mem hother) _ List.mem_cons_self
  have hnone' : after.filter (·.name = table.name) = [] := by
    rw [List.filter_eq_nil_iff]
    intro other hother hname
    exact hafter (List.mem_map.mpr ⟨other, hother, by simpa using hname⟩)
  simp [hnone, hnone']

end Described

/-! ## Built files -/

namespace DatabaseSchema

variable {schema : DatabaseSchema}

theorem map_name_unions (schema : DatabaseSchema) :
    schema.declarationFile.unions.map (·.name) = schema.enumNames := by
  simp [declarationFile, EnumType.declaration, enumNames, Function.comp_def]

theorem map_name_interfaces (schema : DatabaseSchema) :
    schema.declarationFile.interfaces.map (·.name) = schema.tableNames := by
  simp [declarationFile, Table.declaration, tableNames, Function.comp_def]

theorem map_name_properties (table : Table) (enumNames : List String) :
    (table.declaration enumNames).properties.map (·.name) = table.columns.map (·.name) := by
  simp [Table.declaration, Column.property, Function.comp_def]

theorem declaredNames_declarationFile (schema : DatabaseSchema) :
    schema.declarationFile.declaredNames = schema.enumNames ++ schema.tableNames := by
  rw [DeclarationFile.declaredNames, map_name_unions, map_name_interfaces]

/-- The file of a schema has different names just if the schema's names are apart. -/
theorem namesApart_iff :
    schema.NamesApart ↔ schema.declarationFile.declaredNames.Nodup ∧
      ∀ interface ∈ schema.declarationFile.interfaces,
        (interface.properties.map (·.name)).Nodup := by
  have hmembers : (∀ interface ∈ schema.declarationFile.interfaces,
      (interface.properties.map (·.name)).Nodup) ↔
        ∀ table ∈ schema.tables, table.ColumnsApart := by
    simp only [declarationFile, List.forall_mem_map, map_name_properties, Table.ColumnsApart]
  rw [declaredNames_declarationFile, List.nodup_append', hmembers]
  exact ⟨fun h => ⟨⟨h.enums, h.tables, h.enumsAndTables⟩, h.columns⟩,
    fun h => ⟨h.1.1, h.1.2.1, h.1.2.2, h.2⟩⟩

/-- The file of a schema whose names are apart describes it. -/
theorem describes_declarationFile (h : schema.NamesApart) :
    Describes schema schema.declarationFile where
  unions := forall₂_describesEnum_iff.mpr rfl
  interfaces := (forall₂_describesTable_iff rfl).mpr rfl
  moduleName := rfl
  registryName := rfl
  entries := by
    show List.Forall₂ _ schema.tables (schema.tables.map (·.registryEntry))
    rw [List.forall₂_map_right_iff, List.forall₂_same]
    intro table htable
    refine ⟨rfl, _, (describesTable_iff rfl).mpr rfl, ?_⟩
    have hfilter := filter_name_eq h.tables htable
    simp only [declarationFile, List.filter_map]
    exact congrArg (List.map (·.declaration schema.enumNames)) hfilter
  declaredNames := (namesApart_iff.mp h).1
  members := (namesApart_iff.mp h).2

/-- No other file describes a schema. -/
theorem declarationFile_eq_of_describes {file : DeclarationFile} (h : Describes schema file) :
    schema.declarationFile = file := by
  have hunions := forall₂_describesEnum_iff.mp h.unions
  have hinterfaces := (forall₂_describesTable_iff hunions).mp h.interfaces
  have hentries : schema.tables.map (·.registryEntry) = file.registry.entries :=
    forall₂_iff_map_eq.mp
      (h.entries.imp fun _ _ hentry => registryEntry_eq_of_describesEntry hunions hentry)
  have hmodule := h.moduleName
  have hname := h.registryName
  obtain ⟨unions, interfaces, moduleName, interfaceName, entries⟩ := file
  dsimp only at hunions hinterfaces hentries hmodule hname
  rw [declarationFile, Registry.ofEntries, hunions, hinterfaces, hentries, hmodule, hname]

/-- **A schema is built into a file just if the file describes it**: unions, interfaces and
registry agree with the schema, with each other and with the table of types, and no name in the
file could mean two things. -/
theorem outcome_build_eq_ok_iff_describes (schema : DatabaseSchema) (file : DeclarationFile) :
    schema.build.outcome = .ok file ↔ Describes schema file := by
  rw [outcome_build_eq_ok_iff]
  constructor
  · rintro ⟨happart, rfl⟩
    exact describes_declarationFile happart
  · intro h
    have hfile := declarationFile_eq_of_describes h
    refine ⟨namesApart_iff.mpr ?_, hfile⟩
    rw [hfile]
    exact ⟨h.declaredNames, h.members⟩

end DatabaseSchema
end SchemaTypes

import Mathlib.Data.List.InsertIdx
import SchemaTypes.Generation
import SchemaTypes.Proofs.Declaration.Content
import SchemaTypes.Proofs.Declaration.Place
import SchemaTypes.Proofs.TypeScript.Paragraphs

/-!
# What a change of a schema reaches

A schema is changed in three ways here. A table gets other columns (`withColumns`), an enum is added
(`withEnum`), and things are said to be in schemas of other names (`withoutSchemaNames` forgets all
these names, so two schemas that agree without them differ in nothing else). Each change reaches
what it concerns: the interface of the table, the union of the enum and the members of its type, and
nothing at all (`changes_are_local`).

The names of the enums are all that a table learns of the rest of the schema. So another table or
another column never changes what a column becomes, and a new enum changes only columns that name
it. There is one enum that changes not even these. A native type that nothing is known of becomes
`unknown`, and a column of a type that is called so keeps its expression when an enum of that name
turns up (`property?_withEnum_jobs`).
-/

namespace SchemaTypes

/-! ## Types among other enums -/

namespace TypeMap

variable {nativeType name type type' : String} {names names' : List String} {isNullable : Bool}

/-- No type that the table lists is called in the database as it is in the file. -/
theorem table_ne : ∀ entry ∈ table, entry.1 ≠ entry.2 := by decide

/-- A type that is no enum stays what it is called in the database only if it is called like the
type of whatever is not listed. -/
theorem mapType_eq_self_iff (h : nativeType ∉ names) :
    mapType nativeType names = nativeType ↔ nativeType = "unknown" := by
  have hunlisted : ∀ entry ∈ table, entry.1 ≠ "unknown" := by decide
  rw [mapType, if_neg h]
  cases hlookup : table.lookup nativeType with
  | none => exact eq_comm
  | some type =>
    have hmem := lookup_table_eq_some_iff.mp hlookup
    exact iff_of_false (table_ne _ hmem).symm (hunlisted _ hmem)

/-- With one more enum, the type of its name is the enum, and all others are what they were. -/
theorem mapType_added (h : ∀ other, other ∈ names' ↔ other = name ∨ other ∈ names)
    (nativeType : String) :
    mapType nativeType names' = if nativeType = name then name else mapType nativeType names := by
  by_cases heq : nativeType = name
  · rw [if_pos heq, mapType, if_pos ((h nativeType).mpr (Or.inl heq)), heq]
  · simp only [mapType, h, heq, false_or, if_false]

theorem applyNullability_inj :
    applyNullability type isNullable = applyNullability type' isNullable ↔ type = type' := by
  cases isNullable with
  | false => rfl
  | true => exact String.append_left_inj _

end TypeMap

namespace DatabaseSchema

variable {schema other : DatabaseSchema} {file : DeclarationFile}

/-! ## Other columns -/

section Columns

variable {i : Nat} {table : Table} {columns : List Column}

/-- The schema with other columns in the table of the given number. -/
def withColumns (schema : DatabaseSchema) (i : Nat) (columns : List Column) : DatabaseSchema :=
  { schema with tables := schema.tables.modify i fun table => { table with columns } }

theorem tables_withColumns (h : schema.tables[i]? = some table) :
    (schema.withColumns i columns).tables = schema.tables.set i { table with columns } := by
  rw [withColumns, List.modify_eq_set_getElem?, h]
  rfl

/-- What does not depend on the columns of a table is what it was. -/
theorem map_tables_withColumns {α : Type} {f : Table → α} (h : schema.tables[i]? = some table)
    (hf : f { table with columns } = f table) :
    (schema.withColumns i columns).tables.map f = schema.tables.map f := by
  obtain ⟨hi, rfl⟩ := List.getElem?_eq_some_iff.mp h
  have hi' : i < (schema.tables.map f).length := by rwa [List.length_map]
  rw [tables_withColumns h, List.map_set, hf]
  calc (schema.tables.map f).set i (f schema.tables[i])
      = (schema.tables.map f).set i (schema.tables.map f)[i] := by rw [List.getElem_map]
    _ = schema.tables.map f := List.set_getElem_self hi'

theorem namesApart_withColumns (h : schema.NamesApart) (htable : schema.tables[i]? = some table)
    (hcolumns : (columns.map (·.name)).Nodup) : (schema.withColumns i columns).NamesApart := by
  have hnames : (schema.withColumns i columns).tableNames = schema.tableNames :=
    map_tables_withColumns htable rfl
  refine ⟨h.enums, hnames ▸ h.tables, hnames ▸ h.enumsAndTables, fun changed hchanged => ?_⟩
  rw [tables_withColumns htable] at hchanged
  rcases List.mem_or_eq_of_mem_set hchanged with hmem | rfl
  · exact h.columns changed hmem
  · exact hcolumns

/-- Other columns of a table change the interface of the table. -/
theorem declarationFile_withColumns (h : schema.tables[i]? = some table) :
    (schema.withColumns i columns).declarationFile
      = { schema.declarationFile with
          interfaces := schema.declarationFile.interfaces.set i
            (Table.declaration { table with columns } schema.enumNames) } := by
  have hentries : (schema.withColumns i columns).tables.map (·.registryEntry)
      = schema.tables.map (·.registryEntry) := map_tables_withColumns h rfl
  rw [declarationFile, hentries, tables_withColumns h, List.map_set]
  rfl

end Columns

/-! ## Another enum -/

section Enums

variable {k : Nat} {enum : EnumType} {name : String} {names names' : List String}

/-- The schema with an enum added at a position. -/
def withEnum (schema : DatabaseSchema) (k : Nat) (enum : EnumType) : DatabaseSchema :=
  { schema with enums := schema.enums.insertIdx k enum }

theorem enumNames_withEnum (schema : DatabaseSchema) (k : Nat) (enum : EnumType) :
    (schema.withEnum k enum).enumNames = schema.enumNames.insertIdx k enum.name :=
  List.map_insertIdx _ _ _ _

theorem mem_enumNames_withEnum (hk : k ≤ schema.enums.length) :
    name ∈ (schema.withEnum k enum).enumNames ↔ name = enum.name ∨ name ∈ schema.enumNames := by
  rw [enumNames_withEnum]
  exact List.mem_insertIdx (by rwa [enumNames, List.length_map])

theorem namesApart_withEnum (h : schema.NamesApart) (hk : k ≤ schema.enums.length)
    (henum : enum.name ∉ schema.enumNames) (htable : enum.name ∉ schema.tableNames) :
    (schema.withEnum k enum).NamesApart where
  enums := by
    have hk' : k ≤ schema.enumNames.length := by rwa [enumNames, List.length_map]
    rw [enumNames_withEnum, (List.perm_insertIdx enum.name schema.enumNames hk').nodup_iff,
      List.nodup_cons]
    exact ⟨henum, h.enums⟩
  tables := h.tables
  enumsAndTables := by
    intro name hname
    rcases (mem_enumNames_withEnum hk).mp hname with rfl | hname
    · exact htable
    · exact h.enumsAndTables hname
  columns := h.columns

/-- What a member becomes when an enum is added: a column of that type gets its name. -/
def retyped (enum : EnumType) (column : Column) (property : Property) : Property :=
  if column.nativeType = enum.name then
    { property with
      typeExpression := if column.isNullable then enum.name ++ " | null" else enum.name }
  else property

theorem property_added (h : ∀ other, other ∈ names' ↔ other = enum.name ∨ other ∈ names)
    (column : Column) :
    column.property names' = retyped enum column (column.property names) := by
  rw [retyped, Column.property, Column.typeExpression, TypeMap.mapType_added h]
  split
  · rfl
  · rfl

/-- A column of the new type is changed, unless the type was `unknown` and is so again. -/
theorem retyped_ne_iff {column : Column} (h : enum.name ∉ names) :
    retyped enum column (column.property names) ≠ column.property names ↔
      column.nativeType = enum.name ∧ enum.name ≠ "unknown" := by
  rw [retyped]
  split
  · rename_i heq
    have hexpression : TypeMap.applyNullability enum.name column.isNullable
        = column.typeExpression names ↔ enum.name = "unknown" := by
      rw [Column.typeExpression, heq, TypeMap.applyNullability_inj, eq_comm,
        TypeMap.mapType_eq_self_iff h]
    rw [ne_eq, ne_eq, ← hexpression, and_iff_right heq, not_iff_not, Property.mk.injEq]
    simp only [true_and, and_true, Column.property, TypeMap.applyNullability]
  · rename_i hne
    simp [hne]

/-- What the file of a schema becomes when an enum is added at a position. -/
structure AddsUnion (schema : DatabaseSchema) (k : Nat) (enum : EnumType)
    (file changed : DeclarationFile) : Prop where
  unions : changed.unions = file.unions.insertIdx k enum.declaration
  registry : changed.registry = file.registry
  names : changed.interfaces.map (fun interface =>
      (interface.name, interface.properties.map (·.name)))
    = file.interfaces.map fun interface => (interface.name, interface.properties.map (·.name))
  members : ∀ place column, schema.column? place = some column →
    ∃ before after, file.property? place = some before ∧ changed.property? place = some after ∧
      after = retyped enum column before ∧
      (after ≠ before ↔ column.nativeType = enum.name ∧ enum.name ≠ "unknown")

theorem addsUnion_declarationFile (hk : k ≤ schema.enums.length)
    (henum : enum.name ∉ schema.enumNames) :
    AddsUnion schema k enum schema.declarationFile (schema.withEnum k enum).declarationFile where
  unions := List.map_insertIdx _ _ _ _
  registry := rfl
  names := by
    simp only [declarationFile, withEnum, List.map_map, Function.comp_def, Table.declaration,
      Column.property]
  members := by
    intro place column hcolumn
    have hafter : (schema.withEnum k enum).column? place = some column := hcolumn
    refine ⟨column.property schema.enumNames,
      column.property (schema.withEnum k enum).enumNames, ?_, ?_, ?_, ?_⟩
    · rw [property?_declarationFile, hcolumn, Option.map_some]
    · rw [property?_declarationFile, hafter, Option.map_some]
    · exact property_added (fun _ => mem_enumNames_withEnum hk) column
    · rw [property_added (fun _ => mem_enumNames_withEnum hk) column]
      exact retyped_ne_iff henum

end Enums

/-! ## Other names of schemas -/

section SchemaNames

/-- The schema without what it says about the names of schemas. -/
def withoutSchemaNames (schema : DatabaseSchema) : DatabaseSchema where
  schemaName := ""
  tables := schema.tables.map fun table => { table with schemaName := "" }
  enums := schema.enums.map fun enum => { enum with schemaName := "" }

theorem enumNames_withoutSchemaNames (schema : DatabaseSchema) :
    schema.withoutSchemaNames.enumNames = schema.enumNames := by
  simp only [enumNames, withoutSchemaNames, List.map_map, Function.comp_def]

theorem tableNames_withoutSchemaNames (schema : DatabaseSchema) :
    schema.withoutSchemaNames.tableNames = schema.tableNames := by
  simp only [tableNames, withoutSchemaNames, List.map_map, Function.comp_def]

theorem namesApart_withoutSchemaNames (schema : DatabaseSchema) :
    schema.withoutSchemaNames.NamesApart ↔ schema.NamesApart := by
  have hcolumns : (∀ table ∈ schema.withoutSchemaNames.tables, table.ColumnsApart) ↔
      ∀ table ∈ schema.tables, table.ColumnsApart := List.forall_mem_map
  rw [namesApart_iff_forall, namesApart_iff_forall, enumNames_withoutSchemaNames,
    tableNames_withoutSchemaNames, hcolumns]

/-- No declaration depends on the name of a schema. -/
theorem declarationFile_withoutSchemaNames (schema : DatabaseSchema) :
    schema.withoutSchemaNames.declarationFile = schema.declarationFile := by
  rw [declarationFile, enumNames_withoutSchemaNames]
  simp only [withoutSchemaNames, List.map_map, Function.comp_def]
  rfl

theorem outcome_build_of_withoutSchemaNames_eq
    (h : other.withoutSchemaNames = schema.withoutSchemaNames)
    (hfile : schema.build.outcome = .ok file) : other.build.outcome = .ok file := by
  obtain ⟨happart, rfl⟩ := outcome_build_eq_ok_iff.mp hfile
  refine outcome_build_eq_ok_iff.mpr ⟨?_, ?_⟩
  · rwa [← namesApart_withoutSchemaNames, h, namesApart_withoutSchemaNames]
  · rw [← declarationFile_withoutSchemaNames, h, declarationFile_withoutSchemaNames]

end SchemaNames

/-! ## All three changes -/

/-- **A change reaches what it concerns.** An accepted schema stays accepted if a table gets other
columns of different names, if an enum is added whose name is not taken, and if other names of
schemas are given. The first change replaces one interface, and one block of the text. The second
one adds one union, and changes the members of its type unless the type is called `unknown`. The
third one changes nothing. -/
theorem changes_are_local (h : schema.build.outcome = .ok file) :
    (∀ i table columns, schema.tables[i]? = some table → (columns.map Column.name).Nodup →
      ∃ interface, interface.name = table.name ∧
        (schema.withColumns i columns).build.outcome
          = .ok { file with interfaces := file.interfaces.set i interface } ∧
        (schema.withColumns i columns).generate
          = .ok (TypeScript.joinBlocks ((TypeScript.blocks file).set (file.unions.length + 1 + i)
              (TypeScript.renderInterface interface)) ++ "\n")) ∧
    (∀ k enum, k ≤ schema.enums.length → enum.name ∉ schema.enumNames →
      enum.name ∉ schema.tableNames → ∃ changed,
        (schema.withEnum k enum).build.outcome = .ok changed ∧
        AddsUnion schema k enum file changed) ∧
    ∀ other : DatabaseSchema, other.withoutSchemaNames = schema.withoutSchemaNames →
      other.build.outcome = .ok file ∧ other.generate = schema.generate := by
  obtain ⟨happart, hfile⟩ := outcome_build_eq_ok_iff.mp h
  refine ⟨fun i table columns htable hcolumns => ?_, fun k enum hk henum htable => ?_,
    fun other hother => ?_⟩
  · have hi : i < file.interfaces.length := by
      rw [← hfile, declarationFile, List.length_map]
      exact (List.getElem?_eq_some_iff.mp htable).1
    have hbuilt := outcome_build_eq_ok_iff.mpr
      ⟨namesApart_withColumns (i := i) happart htable hcolumns, rfl⟩
    rw [declarationFile_withColumns htable, hfile] at hbuilt
    refine ⟨Table.declaration { table with columns } schema.enumNames, rfl, hbuilt, ?_⟩
    rw [generate, hbuilt, ← TypeScript.blocks_set _ _ hi]
    rfl
  · obtain rfl := hfile
    exact ⟨_, outcome_build_eq_ok_iff.mpr ⟨namesApart_withEnum happart hk henum htable, rfl⟩,
      addsUnion_declarationFile hk henum⟩
  · have hbuilt := outcome_build_of_withoutSchemaNames_eq hother h
    rw [generate, generate, hbuilt, h]
    exact ⟨rfl, rfl⟩

/-- A column may be of a type that is not known yet. -/
def clinic (schemaName : String) : DatabaseSchema where
  schemaName := schemaName
  tables := [⟨"visit", schemaName, [⟨"id", "int4", false, none, none⟩,
    ⟨"state", "urgency", true, none, none⟩]⟩]
  enums := [⟨"mood", schemaName, ["calm"]⟩]

theorem changes_are_local_clinic :
    (clinic "public").build.outcome = .ok (clinic "public").declarationFile ∧
      (∃ interface,
        ((clinic "public").withColumns 0 [⟨"at", "date", false, none, none⟩]).build.outcome
          = .ok { (clinic "public").declarationFile with
              interfaces := (clinic "public").declarationFile.interfaces.set 0 interface }) ∧
      (∃ changed, ((clinic "public").withEnum 1 ⟨"urgency", "public", ["high"]⟩).build.outcome
          = .ok changed ∧
        (changed.property? ⟨0, 1⟩).map (·.typeExpression) = some "urgency | null") ∧
      (clinic "audit").generate = (clinic "public").generate := by
  have hbuilt : (clinic "public").build.outcome = .ok (clinic "public").declarationFile :=
    outcome_build_eq_ok_iff.mpr ⟨by decide, rfl⟩
  obtain ⟨hcolumns, henums, hnames⟩ := changes_are_local hbuilt
  refine ⟨hbuilt, ?_, ?_, (hnames (clinic "audit") rfl).2⟩
  · obtain ⟨interface, -, hchanged, -⟩ := hcolumns 0 _ [⟨"at", "date", false, none, none⟩] rfl
      (List.nodup_singleton _)
    exact ⟨interface, hchanged⟩
  · obtain ⟨changed, hchanged, hadds⟩ := henums 1 ⟨"urgency", "public", ["high"]⟩ (by decide)
      (by decide) (by decide)
    obtain ⟨before, after, hbefore, hafter, rfl, -⟩ := hadds.members ⟨0, 1⟩ _ rfl
    refine ⟨changed, hchanged, ?_⟩
    obtain rfl := Option.some.inj hbefore
    rw [hafter]
    rfl

/-- A table with a column whose type is called like the type of whatever is not known. -/
def jobs : DatabaseSchema where
  schemaName := "public"
  tables := [⟨"job", "public", [⟨"state", "unknown", false, none, none⟩]⟩]
  enums := []

/-- An enum of that name. -/
def unknownEnum : EnumType := ⟨"unknown", "public", ["open"]⟩

/-- The column is of the new enum, and nothing is seen of it. -/
theorem property?_withEnum_jobs :
    jobs.build.outcome = .ok jobs.declarationFile ∧
      unknownEnum.name ∉ jobs.enumNames ∧ unknownEnum.name ∉ jobs.tableNames ∧
      (jobs.withEnum 0 unknownEnum).build.outcome
        = .ok (jobs.withEnum 0 unknownEnum).declarationFile ∧
      (jobs.column? ⟨0, 0⟩).map (·.nativeType) = some unknownEnum.name ∧
      (jobs.withEnum 0 unknownEnum).declarationFile.property? ⟨0, 0⟩
        = jobs.declarationFile.property? ⟨0, 0⟩ := by
  exact ⟨outcome_build_eq_ok_iff.mpr ⟨by decide, rfl⟩, by decide, by decide,
    outcome_build_eq_ok_iff.mpr ⟨by decide, rfl⟩, rfl, rfl⟩

end DatabaseSchema
end SchemaTypes

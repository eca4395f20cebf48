import SchemaTypes.Proofs.Declaration.Content
import SchemaTypes.Proofs.Declaration.TypeForm

/-!
# What references to types stand for

A file refers to types by name in two places. The type of a member refers to a union of the file or
to a built-in type, and an entry of the registry refers to an interface of the file. What a name
stands for is settled by the scopes around it: in the registry's block its own interface comes
first, then, as everywhere else, what the file declares, and only then what is built in.

The check for collisions compares the names that a file declares with each other. It does not
compare them with the names that the file uses, so a declaration can come between a reference and
what is meant by it. There are two ways for this to happen and no third (`references_iff`): an enum
or a table is called like a built-in type that some column needs, or a table is called like the
registry's interface. The schema `captured` has both.

Among the built-in types only `Date` is a name that can be declared again; the others are keywords,
and a file that declares one of them is refused as a whole. Both are told as one here: the name does
not stand for the built-in type alone.
-/

namespace SchemaTypes

/-! ## Scopes -/

/-- What a name of a type stands for. -/
inductive Referent where
  | builtIn (name : String)
  | union (name : String)
  | interface (name : String)
  /-- The interface that the registry itself declares. -/
  | registry
deriving Repr, DecidableEq

namespace DeclarationFile

/-- What a name stands for in the declarations of a file. -/
def referent (file : DeclarationFile) (name : String) : Referent :=
  if name ∈ file.unions.map (·.name) then .union name
  else if name ∈ file.interfaces.map (·.name) then .interface name
  else .builtIn name

/-- What a name stands for in the block of the registry. -/
def referentInRegistry (file : DeclarationFile) (name : String) : Referent :=
  if name = file.registry.interfaceName then .registry else file.referent name

variable {file : DeclarationFile} {name : String}

/-- What the file does not declare is built in, and nothing else is. -/
theorem referent_eq_builtIn_iff :
    file.referent name = .builtIn name ↔ name ∉ file.declaredNames := by
  rw [referent, declaredNames, List.mem_append, not_or]
  split
  · rename_i hunion
    simp [hunion]
  · rename_i hunion
    split
    · rename_i hinterface
      simp [hinterface]
    · rename_i hinterface
      simp [hunion, hinterface]

theorem referent_of_mem_unions (h : name ∈ file.unions.map (·.name)) :
    file.referent name = .union name :=
  if_pos h

theorem referent_of_mem_interfaces (h : name ∈ file.interfaces.map (·.name))
    (hunions : name ∉ file.unions.map (·.name)) : file.referent name = .interface name := by
  rw [referent, if_neg hunions, if_pos h]

end DeclarationFile

/-- What the type of a column is meant to refer to: the union of its enum, or a built-in type. -/
def Column.meant (column : Column) (enumNames : List String) : Referent :=
  if column.nativeType ∈ enumNames then .union column.nativeType
  else .builtIn (TypeMap.entryOf column.nativeType).1.text

/-! ## References of a file -/

section References

variable (schema : DatabaseSchema) (file : DeclarationFile)

/-- No name that the file uses for something else is one that it declares. -/
structure Uncaptured : Prop where
  /-- The name of a built-in type is not declared by the file. -/
  members : ∀ table ∈ schema.tables, ∀ column ∈ table.columns,
    column.nativeType ∉ schema.enumNames →
      (column.typeForm schema.enumNames).element ∉ file.declaredNames
  /-- The interface of a table is not called like that of the registry. -/
  entries : ∀ entry ∈ file.registry.entries, entry.interfaceName ≠ file.registry.interfaceName

/-- Every reference of the file stands for what is meant by it. -/
structure ResolvesAsMeant : Prop where
  members : ∀ table ∈ schema.tables, ∀ column ∈ table.columns,
    file.referent (column.typeForm schema.enumNames).element = column.meant schema.enumNames
  entries : ∀ entry ∈ file.registry.entries,
    file.referentInRegistry entry.interfaceName = .interface entry.interfaceName

/-- No enum or table has a name that has a meaning of its own in the file of the schema. -/
structure KeepsBuiltIns : Prop where
  members : ∀ table ∈ schema.tables, ∀ column ∈ table.columns,
    column.nativeType ∉ schema.enumNames →
      (TypeMap.entryOf column.nativeType).1.text ∉ schema.enumNames ++ schema.tableNames
  registry : Registry.tablesInterface ∉ schema.tableNames

end References

section Resolved

variable {schema : DatabaseSchema}

/-- What all names of tables have but that of the registry's interface, all entries have just if no
table has this name. -/
theorem forall_entries_iff {P : String → Prop}
    (h : ∀ name ∈ schema.tableNames, P name ↔ name ≠ Registry.tablesInterface) :
    (∀ entry ∈ schema.declarationFile.registry.entries, P entry.interfaceName) ↔
      Registry.tablesInterface ∉ schema.tableNames := by
  have hnames : (∀ entry ∈ schema.declarationFile.registry.entries, P entry.interfaceName) ↔
      ∀ name ∈ schema.tableNames, P name := by
    simp [DatabaseSchema.declarationFile, Registry.ofEntries, Table.registryEntry,
      DatabaseSchema.tableNames]
  rw [hnames]
  constructor
  · intro hall hmem
    exact (h _ hmem).mp (hall _ hmem) rfl
  · intro hnot name hname
    exact (h name hname).mpr fun heq => hnot (heq ▸ hname)

/-- A column whose type is no enum refers to what is meant just if the built-in type is not declared
by the file. -/
theorem referent_eq_meant_iff {column : Column} (h : column.nativeType ∉ schema.enumNames) :
    schema.declarationFile.referent (column.typeForm schema.enumNames).element
        = column.meant schema.enumNames ↔
      (TypeMap.entryOf column.nativeType).1.text ∉ schema.enumNames ++ schema.tableNames := by
  rw [Column.element_of_notMem h, Column.meant, if_neg h,
    DeclarationFile.referent_eq_builtIn_iff, DatabaseSchema.declaredNames_declarationFile]

/-- A column whose type is an enum refers to the union of this enum. -/
theorem referent_eq_meant {column : Column} (h : column.nativeType ∈ schema.enumNames) :
    schema.declarationFile.referent (column.typeForm schema.enumNames).element
      = column.meant schema.enumNames := by
  rw [Column.element_of_mem h, Column.meant, if_pos h]
  exact DeclarationFile.referent_of_mem_unions (schema.map_name_unions ▸ h)

/-- An entry stands for the interface of its table just if this is not called like the registry's
own. -/
theorem referentInRegistry_eq_iff (h : schema.NamesApart) {name : String}
    (hname : name ∈ schema.tableNames) :
    schema.declarationFile.referentInRegistry name = .interface name ↔
      name ≠ Registry.tablesInterface := by
  have hreferent : schema.declarationFile.referent name = .interface name := by
    refine DeclarationFile.referent_of_mem_interfaces (schema.map_name_interfaces ▸ hname) ?_
    rw [schema.map_name_unions]
    exact fun hmem => h.enumsAndTables hmem hname
  have hregistry : schema.declarationFile.registry.interfaceName = Registry.tablesInterface := rfl
  rw [DeclarationFile.referentInRegistry, hregistry, hreferent]
  split
  · rename_i heq
    simp [heq]
  · rename_i hne
    simp [hne]

theorem uncaptured_iff : Uncaptured schema schema.declarationFile ↔ KeepsBuiltIns schema := by
  have hmembers : ∀ column : Column, column.nativeType ∉ schema.enumNames →
      ((column.typeForm schema.enumNames).element ∉ schema.declarationFile.declaredNames ↔
        (TypeMap.entryOf column.nativeType).1.text ∉ schema.enumNames ++ schema.tableNames) := by
    intro column hcolumn
    rw [Column.element_of_notMem hcolumn, DatabaseSchema.declaredNames_declarationFile]
  have hentries : (∀ entry ∈ schema.declarationFile.registry.entries,
      entry.interfaceName ≠ schema.declarationFile.registry.interfaceName) ↔
        Registry.tablesInterface ∉ schema.tableNames :=
    forall_entries_iff fun _ _ => Iff.rfl
  constructor
  · rintro ⟨helements, hregistry⟩
    exact ⟨fun table htable column hcolumn hnot =>
      (hmembers column hnot).mp (helements table htable column hcolumn hnot), hentries.mp hregistry⟩
  · rintro ⟨helements, hregistry⟩
    exact ⟨fun table htable column hcolumn hnot =>
      (hmembers column hnot).mpr (helements table htable column hcolumn hnot),
      hentries.mpr hregistry⟩

theorem resolvesAsMeant_iff (h : schema.NamesApart) :
    ResolvesAsMeant schema schema.declarationFile ↔ KeepsBuiltIns schema := by
  have hentries := forall_entries_iff fun _ hname => referentInRegistry_eq_iff h hname
  constructor
  · rintro ⟨helements, hregistry⟩
    exact ⟨fun table htable column hcolumn hnot =>
      (referent_eq_meant_iff hnot).mp (helements table htable column hcolumn),
      hentries.mp hregistry⟩
  · rintro ⟨helements, hregistry⟩
    refine ⟨fun table htable column hcolumn => ?_, hentries.mpr hregistry⟩
    by_cases hmem : column.nativeType ∈ schema.enumNames
    · exact referent_eq_meant hmem
    · exact (referent_eq_meant_iff hmem).mpr (helements table htable column hcolumn hmem)

/-- **References are captured in two ways and no third.** In a file that is built, no name is used
for one thing and declared as another, and every reference stands for what is meant by it, just if
no enum or table has the name of a built-in type that some column needs, and no table has the name
of the registry's interface. -/
theorem references_iff {file : DeclarationFile} (h : schema.build.outcome = .ok file) :
    (Uncaptured schema file ↔ KeepsBuiltIns schema) ∧
      (ResolvesAsMeant schema file ↔ KeepsBuiltIns schema) := by
  obtain ⟨happart, rfl⟩ := DatabaseSchema.outcome_build_eq_ok_iff.mp h
  exact ⟨uncaptured_iff, resolvesAsMeant_iff happart⟩

end Resolved

/-- A visit has a date and a mood. -/
def visits : DatabaseSchema where
  schemaName := "public"
  tables := [⟨"visit", "public",
    [⟨"at", "timestamptz", false, none, none⟩, ⟨"mood", "mood", true, none, none⟩]⟩]
  enums := [⟨"mood", "public", ["sad", "ok"]⟩]

theorem resolvesAsMeant_visits :
    visits.build.outcome = .ok visits.declarationFile ∧ KeepsBuiltIns visits ∧
      ResolvesAsMeant visits visits.declarationFile := by
  have hapart : visits.NamesApart :=
    ⟨by decide, by decide, by simp [visits, DatabaseSchema.enumNames, DatabaseSchema.tableNames],
      by simp [visits, Table.ColumnsApart]⟩
  have hbuild : visits.build.outcome = .ok visits.declarationFile :=
    DatabaseSchema.outcome_build_eq_ok_iff.mpr ⟨hapart, rfl⟩
  have hkeeps : KeepsBuiltIns visits := ⟨by decide, by decide⟩
  exact ⟨hbuild, hkeeps, (references_iff hbuild).2.mpr hkeeps⟩

/-- One table is called like the type of its own column, another one like the registry's
interface. -/
def captured : DatabaseSchema where
  schemaName := "public"
  tables := [⟨"Date", "public", [⟨"at", "timestamptz", false, none, none⟩]⟩,
    ⟨"Tables", "public", []⟩]
  enums := []

/-- **A schema that is accepted can have its references captured.** The column's date is taken for
the table, and the entry of the second table for the registry. -/
theorem captured_accepted_not_meant :
    captured.build.outcome = .ok captured.declarationFile ∧
      (captured.declarationFile.interfaces.flatMap fun interface =>
        interface.properties.map (·.typeExpression)) = ["Date"] ∧
      captured.declarationFile.referent "Date" = .interface "Date" ∧
      captured.declarationFile.referentInRegistry "Tables" = .registry ∧
      ¬ Uncaptured captured captured.declarationFile := by
  have hapart : captured.NamesApart :=
    ⟨by decide, by decide, by simp [captured, DatabaseSchema.enumNames],
      by simp [captured, Table.ColumnsApart]⟩
  refine ⟨DatabaseSchema.outcome_build_eq_ok_iff.mpr ⟨hapart, rfl⟩, by decide, by decide,
    by decide, fun h => ?_⟩
  exact h.entries ⟨"Tables", "Tables"⟩ (by decide) rfl

end SchemaTypes

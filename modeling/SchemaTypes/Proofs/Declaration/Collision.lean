import Mathlib.Data.List.Nodup
import SchemaTypes.Declaration.Build

/-!
# Schemas without collisions

The check for collisions counts, sorts and stops at the first kind of collision that it finds. What
it comes to is simple: a schema passes just if its enums have different names, its tables have
different names, no enum has the name of a table, and within each table the columns have different
names (`collision?_eq_none_iff`). The order of the names and what the check would report play no
role in this.

So a schema that passes has one declaration file, and the file is known
(`outcome_build_eq_ok_iff`). Whoever wants to know something about built files starts here.
-/

namespace SchemaTypes

/-! ## Lists of names -/

section Names

variable {names others : List String}

@[simp] theorem mem_sortedNames {name : String} : name ∈ sortedNames names ↔ name ∈ names := by
  simp [sortedNames]

theorem mem_repeatedNames {name : String} :
    name ∈ repeatedNames names ↔ 1 < names.count name := by
  have hmem : 1 < names.count name → name ∈ names := fun h =>
    List.count_pos_iff.mp (Nat.zero_lt_of_lt h)
  simpa [repeatedNames] using hmem

theorem mem_sharedNames {name : String} :
    name ∈ sharedNames names others ↔ name ∈ names ∧ name ∈ others := by
  simp [sharedNames]

/-- No name is repeated just if all names are different. -/
theorem repeatedNames_eq_nil_iff : repeatedNames names = [] ↔ names.Nodup := by
  simp only [List.eq_nil_iff_forall_not_mem, mem_repeatedNames, Nat.not_lt,
    List.nodup_iff_count_le_one]

/-- No name is shared just if the lists have nothing in common. -/
theorem sharedNames_eq_nil_iff : sharedNames names others = [] ↔ names.Disjoint others := by
  simp only [List.eq_nil_iff_forall_not_mem, mem_sharedNames, not_and, List.disjoint_left]

end Names

/-! ## Schemas -/

/-- The columns of a table have different names. -/
def Table.ColumnsApart (table : Table) : Prop :=
  (table.columns.map (·.name)).Nodup

/-- The names of a schema are different wherever one of them could be taken for another. -/
structure DatabaseSchema.NamesApart (schema : DatabaseSchema) : Prop where
  enums : schema.enumNames.Nodup
  tables : schema.tableNames.Nodup
  enumsAndTables : schema.enumNames.Disjoint schema.tableNames
  columns : ∀ table ∈ schema.tables, table.ColumnsApart

instance (table : Table) : Decidable table.ColumnsApart :=
  inferInstanceAs (Decidable (table.columns.map (·.name)).Nodup)

theorem DatabaseSchema.namesApart_iff_forall {schema : DatabaseSchema} :
    schema.NamesApart ↔ schema.enumNames.Nodup ∧ schema.tableNames.Nodup ∧
      (∀ name ∈ schema.enumNames, name ∉ schema.tableNames) ∧
      ∀ table ∈ schema.tables, table.ColumnsApart :=
  ⟨fun h => ⟨h.enums, h.tables, fun _ hname => List.disjoint_left.mp h.enumsAndTables hname,
      h.columns⟩,
    fun h => ⟨h.1, h.2.1, List.disjoint_left.mpr fun _ hname => h.2.2.1 _ hname, h.2.2.2⟩⟩

instance (schema : DatabaseSchema) : Decidable schema.NamesApart :=
  decidable_of_iff _ DatabaseSchema.namesApart_iff_forall.symm

theorem columnCollision?_eq_none_iff {tables : List Table} :
    columnCollision? tables = none ↔ ∀ table ∈ tables, table.ColumnsApart := by
  induction tables with
  | nil => simp [columnCollision?]
  | cons table rest ih =>
    rw [columnCollision?, List.forall_mem_cons, Table.ColumnsApart, ← repeatedNames_eq_nil_iff]
    split
    · rename_i hnames
      simp [hnames, ih]
    · rename_i hnames
      simp [hnames]

namespace DatabaseSchema

variable {schema : DatabaseSchema}

/-- **A schema passes the check just if its names are apart.** -/
theorem collision?_eq_none_iff : schema.collision? = none ↔ schema.NamesApart := by
  have hnames : schema.NamesApart ↔
      (repeatedNames schema.enumNames ++ repeatedNames schema.tableNames = [] ∧
        sharedNames schema.enumNames schema.tableNames = []) ∧
          columnCollision? schema.tables = none := by
    rw [List.append_eq_nil_iff, repeatedNames_eq_nil_iff, repeatedNames_eq_nil_iff,
      sharedNames_eq_nil_iff, columnCollision?_eq_none_iff]
    exact ⟨fun h => ⟨⟨⟨h.enums, h.tables⟩, h.enumsAndTables⟩, h.columns⟩,
      fun h => ⟨h.1.1.1, h.1.1.2, h.1.2, h.2⟩⟩
  rw [hnames, collision?]
  split
  · rename_i hrepeated
    simp [hrepeated]
  · rename_i hrepeated
    split
    · rename_i hshared
      simp [hshared]
    · rename_i hshared
      simp [hrepeated, hshared]

/-- A file is built for a schema just if its names are apart, and there is only one file for it. -/
theorem outcome_build_eq_ok_iff {file : DeclarationFile} :
    schema.build.outcome = .ok file ↔ schema.NamesApart ∧ schema.declarationFile = file := by
  rw [← collision?_eq_none_iff, build]
  cases schema.collision? with
  | none => simp
  | some collision => simp

end DatabaseSchema
end SchemaTypes

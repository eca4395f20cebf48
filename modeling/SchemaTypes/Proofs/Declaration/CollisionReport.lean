import Mathlib.Data.List.Duplicate
import SchemaTypes.Proofs.Declaration.Collision

/-!
# What is reported of a collision

A schema may have collisions of several kinds at once, and names that occur three times or more. The
check reports one kind and says which names are concerned. What it has to say is stated here without
counting and sorting (`Reports`): a list of names is right if it holds exactly the names concerned
and goes up strictly in the order of code points, and there is only one such list
(`ListsInOrder.unique`). Each kind of collision is reported only if there is none of the kinds before
it, and of the tables with repeated columns the first one is reported.

The check reports just what it has to (`collision_report_iff`), whatever the schema is.
-/

namespace SchemaTypes

/-! ## Lists of names in order -/

/-- A list holds exactly the names with a property, each once and in the order of code points. -/
structure ListsInOrder (P : String → Prop) (listed : List String) : Prop where
  mem_iff : ∀ name, name ∈ listed ↔ P name
  increasing : listed.Pairwise (· < ·)

section Names

variable {names others listed : List String} {P : String → Prop}

theorem nodup_of_increasing (h : listed.Pairwise (· < ·)) : listed.Nodup := by
  refine h.imp ?_
  rintro a _ hlt rfl
  exact String.lt_irrefl a hlt

/-- There is only one list that holds some names in order. -/
theorem ListsInOrder.unique (h : ListsInOrder P names) (h' : ListsInOrder P others) :
    names = others := by
  have hperm : names.Perm others :=
    (List.perm_ext_iff_of_nodup (nodup_of_increasing h.increasing)
      (nodup_of_increasing h'.increasing)).mpr
      fun name => (h.mem_iff name).trans (h'.mem_iff name).symm
  exact hperm.eq_of_pairwise (fun a b _ _ hab hba => absurd hba (String.lt_asymm hab))
    h.increasing h'.increasing

theorem nodup_eraseDups (names : List String) : names.eraseDups.Nodup := by
  match names with
  | [] => exact List.nodup_nil
  | name :: rest =>
    rw [List.eraseDups_cons, List.nodup_cons, List.mem_eraseDups]
    exact ⟨by simp, nodup_eraseDups _⟩
termination_by names.length
decreasing_by exact Nat.lt_succ_of_le (List.length_filter_le _ _)

/-- Sorting goes up strictly, since no name is left twice. -/
theorem increasing_sortedNames (names : List String) :
    (sortedNames names).Pairwise (· < ·) := by
  have hsorted : (sortedNames names).Pairwise fun a b => decide (¬ b < a) = true := by
    refine List.pairwise_mergeSort (fun a b c hab hbc => ?_) (fun a b => ?_) _
    · simp only [decide_eq_true_eq, String.not_lt] at hab hbc ⊢
      exact String.le_trans hab hbc
    · simp only [Bool.or_eq_true, decide_eq_true_eq, String.not_lt]
      exact String.le_total a b
  have hnodup : (sortedNames names).Nodup :=
    (List.mergeSort_perm _ _).nodup_iff.mpr (nodup_eraseDups names)
  refine (hsorted.and hnodup).imp fun {a b} hab => ?_
  rw [decide_eq_true_eq, String.not_lt] at hab
  rw [← String.not_le]
  exact fun hba => hab.2 (String.le_antisymm hab.1 hba)

/-- The repeated names are those that occur twice at least. -/
theorem listsInOrder_repeatedNames (names : List String) :
    ListsInOrder (List.Duplicate · names) (repeatedNames names) where
  mem_iff _ := mem_repeatedNames.trans List.duplicate_iff_two_le_count.symm
  increasing := increasing_sortedNames _

theorem listsInOrder_sharedNames (names others : List String) :
    ListsInOrder (fun name => name ∈ names ∧ name ∈ others) (sharedNames names others) where
  mem_iff _ := mem_sharedNames
  increasing := increasing_sortedNames _

end Names

/-! ## Reports -/

section Reports

variable (schema : DatabaseSchema)

/-- The collision that has to be reported for a schema, and the text of the report. -/
inductive Reports : Collision → String → Prop
  /-- Names that two enums have, and after them names that two tables have. -/
  | repeatedTypes {enums tables : List String} :
    ListsInOrder (List.Duplicate · schema.enumNames) enums →
    ListsInOrder (List.Duplicate · schema.tableNames) tables → enums ++ tables ≠ [] →
      Reports (.repeatedTypes schema.schemaName (enums ++ tables))
        ("Duplicate type names in schema " ++ schema.schemaName ++ ": "
          ++ ", ".intercalate (enums ++ tables))
  /-- Names that an enum and a table have. -/
  | enumAndTable {shared : List String} :
    schema.enumNames.Nodup → schema.tableNames.Nodup →
    ListsInOrder (fun name => name ∈ schema.enumNames ∧ name ∈ schema.tableNames) shared →
    shared ≠ [] →
      Reports (.enumAndTable schema.schemaName shared)
        ("Enum and table names collide in schema " ++ schema.schemaName ++ ": "
          ++ ", ".intercalate shared)
  /-- Names that two columns have, in the first table with such columns. -/
  | repeatedColumns {before after : List Table} {table : Table} {columns : List String} :
    schema.enumNames.Nodup → schema.tableNames.Nodup →
    schema.enumNames.Disjoint schema.tableNames → schema.tables = before ++ table :: after →
    (∀ earlier ∈ before, earlier.ColumnsApart) →
    ListsInOrder (List.Duplicate · (table.columns.map (·.name))) columns → columns ≠ [] →
      Reports (.repeatedColumns table.name columns)
        ("Duplicate column names in table " ++ table.name ++ ": " ++ ", ".intercalate columns)

/-- Two enums have one name, or two tables, or an enum and a table, or two columns of a table. -/
def NamesCollide : Prop :=
  (∃ name, List.Duplicate name schema.enumNames) ∨
    (∃ name, List.Duplicate name schema.tableNames) ∨
    (∃ name, name ∈ schema.enumNames ∧ name ∈ schema.tableNames) ∨
    ∃ table ∈ schema.tables, ∃ name, List.Duplicate name (table.columns.map (·.name))

end Reports

/-! ## Where the check stops -/

/-- Among the tables, the check stops at the first one whose columns are not apart. -/
theorem columnCollision?_eq_some_iff {tables : List Table} {collision : Collision} :
    columnCollision? tables = some collision ↔
      ∃ before table after, tables = before ++ table :: after ∧
        (∀ earlier ∈ before, earlier.ColumnsApart) ∧
        repeatedNames (table.columns.map (·.name)) ≠ [] ∧
        collision = .repeatedColumns table.name (repeatedNames (table.columns.map (·.name))) := by
  induction tables with
  | nil => simp [columnCollision?]
  | cons first rest ih =>
    rw [columnCollision?]
    split
    · rename_i hnames
      have hfirst : first.ColumnsApart := repeatedNames_eq_nil_iff.mp hnames
      rw [ih]
      constructor
      · rintro ⟨before, table, after, rfl, hbefore, hreport⟩
        exact ⟨first :: before, table, after, rfl,
          List.forall_mem_cons.mpr ⟨hfirst, hbefore⟩, hreport⟩
      · rintro ⟨before, table, after, htables, hbefore, hne, hreport⟩
        cases before with
        | nil =>
          obtain ⟨rfl, -⟩ := List.cons.inj htables
          exact absurd hnames hne
        | cons _ before =>
          obtain ⟨-, rfl⟩ := List.cons.inj htables
          exact ⟨before, table, after, rfl, (List.forall_mem_cons.mp hbefore).2, hne, hreport⟩
    · rename_i name names hnames
      have hne : repeatedNames (first.columns.map (·.name)) ≠ [] := by simp [hnames]
      rw [Option.some_inj, eq_comm, ← hnames]
      constructor
      · rintro rfl
        exact ⟨[], first, rest, rfl, List.forall_mem_nil _, hne, rfl⟩
      · rintro ⟨before, table, after, htables, hbefore, -, rfl⟩
        cases before with
        | nil =>
          obtain ⟨rfl, -⟩ := List.cons.inj htables
          rfl
        | cons _ before =>
          obtain ⟨rfl, -⟩ := List.cons.inj htables
          exact absurd (repeatedNames_eq_nil_iff.mpr (hbefore _ List.mem_cons_self)) hne

namespace DatabaseSchema

variable {schema : DatabaseSchema} {collision : Collision}

/-- The check looks for one kind of collision after the other. -/
theorem collision?_eq_some_iff :
    schema.collision? = some collision ↔
      (repeatedNames schema.enumNames ++ repeatedNames schema.tableNames ≠ [] ∧
        collision = .repeatedTypes schema.schemaName
          (repeatedNames schema.enumNames ++ repeatedNames schema.tableNames)) ∨
      (schema.enumNames.Nodup ∧ schema.tableNames.Nodup) ∧
        ((sharedNames schema.enumNames schema.tableNames ≠ [] ∧
          collision = .enumAndTable schema.schemaName
            (sharedNames schema.enumNames schema.tableNames)) ∨
        schema.enumNames.Disjoint schema.tableNames ∧
          columnCollision? schema.tables = some collision) := by
  rw [← repeatedNames_eq_nil_iff, ← repeatedNames_eq_nil_iff, ← sharedNames_eq_nil_iff,
    ← List.append_eq_nil_iff, collision?]
  split
  · rename_i hrepeated
    simpa [hrepeated] using eq_comm
  · rename_i hrepeated
    split
    · rename_i hshared
      simpa [hrepeated, hshared] using eq_comm
    · rename_i hshared
      simp [hrepeated, hshared]

theorem reports_of_collision? (h : schema.collision? = some collision) :
    Reports schema collision collision.message := by
  rcases collision?_eq_some_iff.mp h with
    ⟨hne, rfl⟩ | ⟨⟨henums, htables⟩, ⟨hne, rfl⟩ | ⟨hdisjoint, hcolumns⟩⟩
  · exact .repeatedTypes (listsInOrder_repeatedNames _) (listsInOrder_repeatedNames _) hne
  · exact .enumAndTable henums htables (listsInOrder_sharedNames _ _) hne
  · obtain ⟨before, table, after, hsplit, hbefore, hne, rfl⟩ :=
      columnCollision?_eq_some_iff.mp hcolumns
    exact .repeatedColumns henums htables hdisjoint hsplit hbefore
      (listsInOrder_repeatedNames _) hne

theorem collision?_of_reports {message : String} (h : Reports schema collision message) :
    schema.collision? = some collision ∧ collision.message = message := by
  rw [collision?_eq_some_iff]
  cases h with
  | repeatedTypes henums htables hne =>
    obtain rfl := henums.unique (listsInOrder_repeatedNames _)
    obtain rfl := htables.unique (listsInOrder_repeatedNames _)
    exact ⟨.inl ⟨hne, rfl⟩, rfl⟩
  | enumAndTable henums htables hshared hne =>
    obtain rfl := hshared.unique (listsInOrder_sharedNames _ _)
    exact ⟨.inr ⟨⟨henums, htables⟩, .inl ⟨hne, rfl⟩⟩, rfl⟩
  | repeatedColumns henums htables hdisjoint hsplit hbefore hcolumns hne =>
    obtain rfl := hcolumns.unique (listsInOrder_repeatedNames _)
    have hstop := columnCollision?_eq_some_iff.mpr ⟨_, _, _, hsplit, hbefore, hne, rfl⟩
    exact ⟨.inr ⟨⟨henums, htables⟩, .inr ⟨hdisjoint, hstop⟩⟩, rfl⟩

/-- The names of a schema collide just if they are not apart. -/
theorem namesCollide_iff : NamesCollide schema ↔ ¬ schema.NamesApart := by
  have hcolumns : (∃ table ∈ schema.tables, ∃ name,
      List.Duplicate name (table.columns.map (·.name))) ↔
        ¬ ∀ table ∈ schema.tables, table.ColumnsApart := by
    simp only [List.exists_duplicate_iff_not_nodup, not_forall, exists_prop, Table.ColumnsApart]
  have hshared : (∃ name, name ∈ schema.enumNames ∧ name ∈ schema.tableNames) ↔
      ¬ schema.enumNames.Disjoint schema.tableNames := by
    simp only [List.disjoint_left, not_forall, not_not, exists_prop]
  rw [NamesCollide, List.exists_duplicate_iff_not_nodup, List.exists_duplicate_iff_not_nodup,
    hcolumns, hshared, ← not_and_or, ← not_and_or, ← not_and_or, not_iff_not]
  exact ⟨fun h => ⟨h.1, h.2.1, h.2.2.1, h.2.2.2⟩,
    fun h => ⟨h.enums, h.tables, h.enumsAndTables, h.columns⟩⟩

theorem build_of_collision? (h : schema.collision? = some collision) :
    schema.build = ⟨.error collision, []⟩ := by
  rw [build, h]

/-- No declarations are built just if the check finds a collision. -/
theorem outcome_build_eq_error_iff :
    schema.build.outcome = .error collision ↔ schema.collision? = some collision := by
  constructor
  · intro h
    cases hcollision : schema.collision? with
    | none =>
      rw [build, hcollision] at h
      cases h
    | some other =>
      rw [build_of_collision? hcollision] at h
      rw [Except.error.inj h]
  · intro h
    rw [build_of_collision? h]

/-- **A schema is rejected just if names collide**, with the report that has to be made: the first
kind of collision that there is, with exactly the names concerned, each once and in order, and the
text that says so. When it is rejected, nothing is logged. -/
theorem collision_report_iff (schema : DatabaseSchema) :
    ((∃ collision, schema.collision? = some collision) ↔ NamesCollide schema) ∧
      ∀ collision,
        (schema.build.outcome = .error collision ↔ schema.collision? = some collision) ∧
        (∀ message, schema.build.outcome = .error collision ∧ collision.message = message ↔
          Reports schema collision message) ∧
        (schema.build.outcome = .error collision → schema.build.log = []) := by
  refine ⟨?_, fun collision => ⟨outcome_build_eq_error_iff, fun message => ?_, fun h => ?_⟩⟩
  · rw [namesCollide_iff, ← collision?_eq_none_iff]
    exact Option.ne_none_iff_exists'.symm
  · rw [outcome_build_eq_error_iff]
    constructor
    · rintro ⟨h, rfl⟩
      exact reports_of_collision? h
    · exact collision?_of_reports
  · rw [build_of_collision? (outcome_build_eq_error_iff.mp h)]

end DatabaseSchema
end SchemaTypes

import Mathlib.Data.List.Perm.Basic
import SchemaTypes.Proofs.Declaration.CollisionReport

/-!
# Declarations in another order

A database may list its enums, its tables and the columns of a table in any order, and the file
follows the order that it gets. This is all that the order does. A `Rearrangement` of a schema says
for its enums, for its tables and for the columns of each table which number comes when, so it can
be applied to a schema and, in the same way, to a file. Every schema with the same enums and tables
in some order comes from one of them (`sameInSomeOrder_iff`).

The file of a rearranged schema is the rearranged file of the schema
(`declarationFile_rearranged`): a column finds the type it is mapped to among the enums wherever
they stand. Rearranging neither makes nor removes a collision, and what is reported of colliding type
names is the same, since the names are counted and sorted (`build_rearranged`). Only of several
tables with repeated columns another one may now be the first.
-/

namespace SchemaTypes

/-! ## Lists in another order -/

section Reorder

variable {α β : Type} {order : List Nat} {items others : List α}

/-- The items with the given numbers, in the order of the numbers. -/
def reorder (order : List Nat) (items : List α) : List α :=
  order.filterMap (items[·]?)

theorem map_reorder (f : α → β) (order : List Nat) (items : List α) :
    (reorder order items).map f = reorder order (items.map f) := by
  rw [reorder, reorder, List.map_filterMap]
  exact List.filterMap_congr fun i _ => List.getElem?_map.symm

theorem reorder_range (items : List α) : reorder (List.range items.length) items = items := by
  have hnumbers : List.range items.length = items.zipIdx.map Prod.snd := by
    rw [List.zipIdx_map_snd, List.range_eq_range']
  have hfound : ∀ item ∈ items.zipIdx, items[item.2]? = some item.1 := fun item hitem =>
    List.mem_zipIdx_iff_getElem?.mp hitem
  rw [reorder, hnumbers, List.filterMap_map]
  calc items.zipIdx.filterMap _ = items.zipIdx.filterMap (some ∘ Prod.fst) :=
        List.filterMap_congr hfound
    _ = items := by rw [List.filterMap_eq_map, List.zipIdx_map_fst]

/-- Items in another order are the same items. -/
theorem reorder_perm (h : order.Perm (List.range items.length)) :
    (reorder order items).Perm items := by
  have hperm : (reorder order items).Perm (reorder (List.range items.length) items) :=
    h.filterMap _
  rwa [reorder_range] at hperm

/-- A change that depends on the number of an item may be made before another change or after it. -/
theorem map_mapIdx_comm {γ δ : Type} {change : Nat → α → β} {later : β → δ} {first : α → γ}
    {changeThen : Nat → γ → δ} (h : ∀ i item, later (change i item) = changeThen i (first item))
    (items : List α) :
    (items.mapIdx change).map later = (items.map first).mapIdx changeThen := by
  refine List.ext_getElem? fun i => ?_
  rw [List.getElem?_map, List.getElem?_mapIdx, List.getElem?_mapIdx, List.getElem?_map,
    Option.map_map, Option.map_map]
  exact Option.map_congr fun item _ => h i item

/-- A change that does not show is not seen. -/
theorem map_mapIdx_of_eq {change : Nat → α → α} {seen : α → β}
    (h : ∀ i item, seen (change i item) = seen item) (items : List α) :
    (items.mapIdx change).map seen = items.map seen := by
  refine List.ext_getElem? fun i => ?_
  rw [List.getElem?_map, List.getElem?_mapIdx, List.getElem?_map, Option.map_map]
  exact Option.map_congr fun item _ => h i item

/-- Every order of some items comes from an order of their numbers. -/
theorem exists_reorder_of_perm (h : items.Perm others) :
    ∃ order : List Nat, order.Perm (List.range items.length) ∧ reorder order items = others := by
  have hnumbered : others.Perm (items.zipIdx.map Prod.fst) := by
    rw [List.zipIdx_map_fst]
    exact h.symm
  obtain ⟨numbered, rfl, hperm⟩ :=
    (congrFun (congrFun (List.eq_map_comp_perm Prod.fst) others) items.zipIdx).mpr hnumbered
  refine ⟨numbered.map Prod.snd, ?_, ?_⟩
  · rw [List.range_eq_range', ← List.zipIdx_map_snd 0 items]
    exact hperm.map _
  · have hfound : ∀ item ∈ numbered, items[item.2]? = some item.1 := fun item hitem =>
      List.mem_zipIdx_iff_getElem?.mp (hperm.subset hitem)
    rw [reorder, List.filterMap_map]
    exact (List.filterMap_congr hfound).trans (congrFun List.filterMap_eq_map numbered)

end Reorder

/-! ## Rearrangements -/

/-- An order of the enums of a schema, of its tables, and of the columns of each table: which number
comes when. -/
structure Rearrangement (schema : DatabaseSchema) where
  enums : List Nat
  tables : List Nat
  columns : Nat → List Nat
  enums_perm : enums.Perm (List.range schema.enums.length)
  tables_perm : tables.Perm (List.range schema.tables.length)
  columns_perm : ∀ i table, schema.tables[i]? = some table →
    (columns i).Perm (List.range table.columns.length)

namespace Rearrangement

variable {given : DatabaseSchema}

/-- A table with its columns in another order. -/
def table (order : List Nat) (table : Table) : Table :=
  { table with columns := reorder order table.columns }

/-- An interface with its members in another order. -/
def interface (order : List Nat) (interface : InterfaceDeclaration) : InterfaceDeclaration :=
  { interface with properties := reorder order interface.properties }

/-- The given schema, rearranged. -/
def schema (order : Rearrangement given) : DatabaseSchema where
  schemaName := given.schemaName
  tables := reorder order.tables (given.tables.mapIdx fun i => table (order.columns i))
  enums := reorder order.enums given.enums

/-- A file, rearranged in the same way: the unions like the enums, the interfaces and the entries of
the registry like the tables, and the members of each interface like the columns of its table. -/
def file (order : Rearrangement given) (file : DeclarationFile) : DeclarationFile where
  unions := reorder order.enums file.unions
  interfaces :=
    reorder order.tables (file.interfaces.mapIdx fun i => interface (order.columns i))
  registry := { file.registry with entries := reorder order.tables file.registry.entries }

end Rearrangement

/-! ## All orders -/

section AllOrders

/-- Two tables that differ in the order of their columns only. -/
structure Table.SameInSomeOrder (table other : Table) : Prop where
  name : table.name = other.name
  schemaName : table.schemaName = other.schemaName
  columns : table.columns.Perm other.columns

/-- Two schemas that differ in the order of their enums, tables and columns only. -/
structure DatabaseSchema.SameInSomeOrder (schema other : DatabaseSchema) : Prop where
  schemaName : schema.schemaName = other.schemaName
  enums : schema.enums.Perm other.enums
  tables : ∃ tables, List.Forall₂ Table.SameInSomeOrder schema.tables tables ∧
    tables.Perm other.tables

variable {schema other : DatabaseSchema}

theorem Rearrangement.sameInSomeOrder (order : Rearrangement schema) :
    schema.SameInSomeOrder order.schema where
  schemaName := rfl
  enums := (reorder_perm order.enums_perm).symm
  tables := by
    refine ⟨schema.tables.mapIdx fun i => Rearrangement.table (order.columns i), ?_, ?_⟩
    · rw [List.forall₂_iff_get]
      refine ⟨by rw [List.length_mapIdx], fun i hi hi' => ?_⟩
      simp only [List.get_eq_getElem, List.getElem_mapIdx]
      exact ⟨rfl, rfl, (reorder_perm (order.columns_perm i _ (List.getElem?_eq_getElem hi))).symm⟩
    · exact (reorder_perm (by rw [List.length_mapIdx]; exact order.tables_perm)).symm

theorem Table.SameInSomeOrder.exists_order {table other : Table} (h : table.SameInSomeOrder other) :
    ∃ order : List Nat, order.Perm (List.range table.columns.length) ∧
      Rearrangement.table order table = other := by
  obtain ⟨order, hperm, hcolumns⟩ := exists_reorder_of_perm h.columns
  refine ⟨order, hperm, ?_⟩
  rw [Rearrangement.table, hcolumns, h.name, h.schemaName]

/-- For tables that differ in the order of their columns there are the orders in which they do. -/
theorem exists_columns_of_forall₂ {tables others : List Table}
    (h : List.Forall₂ Table.SameInSomeOrder tables others) :
    ∃ columns : Nat → List Nat,
      (∀ i table, tables[i]? = some table →
        (columns i).Perm (List.range table.columns.length)) ∧
      tables.mapIdx (fun i => Rearrangement.table (columns i)) = others := by
  induction h with
  | nil => exact ⟨fun _ => [], fun _ _ h => absurd h (Option.some_ne_none _).symm, rfl⟩
  | cons htable _ ih =>
    obtain ⟨order, hperm, horder⟩ := htable.exists_order
    obtain ⟨columns, hcolumns, hrest⟩ := ih
    refine ⟨fun i => i.casesOn order columns, fun i table htable => ?_, ?_⟩
    · cases i with
      | zero =>
        obtain rfl := Option.some.inj htable
        exact hperm
      | succ i => exact hcolumns i table htable
    · rw [List.mapIdx_cons]
      exact congrArg₂ List.cons horder hrest

/-- **Every order is reached.** -/
theorem sameInSomeOrder_iff :
    schema.SameInSomeOrder other ↔ ∃ order : Rearrangement schema, order.schema = other := by
  constructor
  · rintro ⟨hname, henums, middle, hmiddle, htables⟩
    obtain ⟨columns, hcolumns, hmapIdx⟩ := exists_columns_of_forall₂ hmiddle
    obtain ⟨enumOrder, henumOrder, henums⟩ := exists_reorder_of_perm henums
    obtain ⟨tableOrder, htableOrder, htables⟩ := exists_reorder_of_perm htables
    refine ⟨⟨enumOrder, tableOrder, columns, henumOrder, hmiddle.length_eq ▸ htableOrder,
      hcolumns⟩, ?_⟩
    rw [Rearrangement.schema, henums, hmapIdx, htables, hname]
  · rintro ⟨order, rfl⟩
    exact order.sameInSomeOrder

end AllOrders

/-! ## Files -/

section Files

variable {schema : DatabaseSchema} {names others : List String}

/-- A column looks for its type among the enums, wherever it stands there. -/
theorem property_congr (h : ∀ name, name ∈ names ↔ name ∈ others) (column : Column) :
    column.property names = column.property others := by
  rw [Column.property, Column.property, Column.typeExpression, Column.typeExpression,
    TypeMap.mapType, TypeMap.mapType]
  simp only [h]

theorem perm_enumNames (order : Rearrangement schema) :
    order.schema.enumNames.Perm schema.enumNames :=
  (reorder_perm order.enums_perm).map _

theorem perm_tables (order : Rearrangement schema) :
    order.schema.tables.Perm
      (schema.tables.mapIdx fun i => Rearrangement.table (order.columns i)) := by
  refine reorder_perm ?_
  rw [List.length_mapIdx]
  exact order.tables_perm

theorem perm_tableNames (order : Rearrangement schema) :
    order.schema.tableNames.Perm schema.tableNames := by
  have hnames : (schema.tables.mapIdx fun i => Rearrangement.table (order.columns i)).map (·.name)
      = schema.tableNames := by
    refine map_mapIdx_of_eq (fun i table => ?_) _
    rfl
  exact hnames ▸ (perm_tables order).map Table.name

/-- **The file of a rearranged schema is the rearranged file of the schema.** -/
theorem declarationFile_rearranged (order : Rearrangement schema) :
    order.schema.declarationFile = order.file schema.declarationFile := by
  have hnames : ∀ name, name ∈ order.schema.enumNames ↔ name ∈ schema.enumNames := fun name =>
    (perm_enumNames order).mem_iff
  have htable : ∀ i (table : Table),
      (Rearrangement.table (order.columns i) table).declaration order.schema.enumNames
        = Rearrangement.interface (order.columns i) (table.declaration schema.enumNames) := by
    intro i table
    have hproperty : (fun column : Column => column.property order.schema.enumNames)
        = fun column => column.property schema.enumNames := by
      funext column
      exact property_congr hnames column
    rw [Table.declaration, Rearrangement.table, map_reorder, hproperty]
    rfl
  have hunions : order.schema.enums.map (·.declaration)
      = reorder order.enums (schema.enums.map (·.declaration)) := map_reorder _ _ _
  have hinterfaces : order.schema.tables.map (·.declaration order.schema.enumNames)
      = reorder order.tables ((schema.tables.map (·.declaration schema.enumNames)).mapIdx
          fun i => Rearrangement.interface (order.columns i)) :=
    (map_reorder _ _ _).trans (congrArg _ (map_mapIdx_comm htable _))
  have hregistered : (schema.tables.mapIdx fun i => Rearrangement.table (order.columns i)).map
      (·.registryEntry) = schema.tables.map (·.registryEntry) := by
    refine map_mapIdx_of_eq (fun i table => ?_) _
    rfl
  have hentries : order.schema.tables.map (·.registryEntry)
      = reorder order.tables (schema.tables.map (·.registryEntry)) :=
    (map_reorder _ _ _).trans (congrArg _ hregistered)
  rw [DatabaseSchema.declarationFile, hunions, hinterfaces, hentries]
  rfl

/-- Columns in another order have different names just if they have them in the given order. -/
theorem columnsApart_rearranged (order : Rearrangement schema) :
    (∀ table ∈ order.schema.tables, table.ColumnsApart) ↔
      ∀ table ∈ schema.tables, table.ColumnsApart := by
  have hcolumns : ∀ i table, schema.tables[i]? = some table →
      ((Rearrangement.table (order.columns i) table).ColumnsApart ↔ table.ColumnsApart) :=
    fun i table htable => ((reorder_perm (order.columns_perm i table htable)).map _).nodup_iff
  have hmem : (∀ table ∈ order.schema.tables, table.ColumnsApart) ↔
      ∀ table ∈ schema.tables.mapIdx fun i => Rearrangement.table (order.columns i),
        table.ColumnsApart :=
    forall_congr' fun table => imp_congr_left (perm_tables order).mem_iff
  rw [hmem]
  simp only [List.mem_iff_getElem?, List.getElem?_mapIdx, Option.map_eq_some_iff]
  constructor
  · rintro h table ⟨i, htable⟩
    exact (hcolumns i table htable).mp (h _ ⟨i, table, htable, rfl⟩)
  · rintro h _ ⟨i, table, htable, rfl⟩
    exact (hcolumns i table htable).mpr (h table ⟨i, htable⟩)

/-- Rearranging neither makes nor removes a collision. -/
theorem namesApart_rearranged (order : Rearrangement schema) :
    order.schema.NamesApart ↔ schema.NamesApart := by
  rw [DatabaseSchema.namesApart_iff_forall, DatabaseSchema.namesApart_iff_forall,
    (perm_enumNames order).nodup_iff, (perm_tableNames order).nodup_iff,
    columnsApart_rearranged order]
  simp only [(perm_enumNames order).mem_iff, (perm_tableNames order).mem_iff]

end Files

/-! ## Reports -/

section Reports

variable {schema : DatabaseSchema} {names others names' others' : List String}

/-- Repeated names are reported in the same way in whatever order they come. -/
theorem repeatedNames_of_perm (h : names.Perm others) :
    repeatedNames names = repeatedNames others := by
  refine (listsInOrder_repeatedNames names).unique
    ⟨fun name => ?_, increasing_sortedNames _⟩
  rw [mem_repeatedNames, List.duplicate_iff_two_le_count, h.count_eq]
  exact Iff.rfl

theorem sharedNames_of_perm (h : names.Perm names') (h' : others.Perm others') :
    sharedNames names others = sharedNames names' others' := by
  refine (listsInOrder_sharedNames names others).unique
    ⟨fun name => ?_, increasing_sortedNames _⟩
  rw [mem_sharedNames, h.mem_iff, h'.mem_iff]

/-- A collision of type names is found just if it is found in the given order. -/
theorem collision?_rearranged (order : Rearrangement schema) {collision : Collision}
    (h : ∀ table columns, collision ≠ .repeatedColumns table columns) :
    order.schema.collision? = some collision ↔ schema.collision? = some collision := by
  have hcolumns : ∀ tables, columnCollision? tables ≠ some collision := by
    intro tables htables
    obtain ⟨-, table, -, -, -, -, hreport⟩ := columnCollision?_eq_some_iff.mp htables
    exact h _ _ hreport
  have hname : order.schema.schemaName = schema.schemaName := rfl
  rw [DatabaseSchema.collision?_eq_some_iff, DatabaseSchema.collision?_eq_some_iff, hname,
    repeatedNames_of_perm (perm_enumNames order), repeatedNames_of_perm (perm_tableNames order),
    sharedNames_of_perm (perm_enumNames order) (perm_tableNames order),
    (perm_enumNames order).nodup_iff, (perm_tableNames order).nodup_iff]
  simp only [hcolumns, and_false, or_false]

/-- **The order of a schema is that of its file and changes nothing else.** Whatever order enums,
tables and columns are brought into, the schema is accepted just if it was, its file is the given
one in the same order, and if type names collide the report is the same. -/
theorem build_rearranged (schema : DatabaseSchema) :
    (∀ other, schema.SameInSomeOrder other ↔
      ∃ order : Rearrangement schema, order.schema = other) ∧
    ∀ order : Rearrangement schema,
      ((∃ file, order.schema.build.outcome = .ok file) ↔
        ∃ file, schema.build.outcome = .ok file) ∧
      (∀ file, schema.build.outcome = .ok file →
        order.schema.build.outcome = .ok (order.file file)) ∧
      (∀ name names, order.schema.build.outcome = .error (.repeatedTypes name names) ↔
        schema.build.outcome = .error (.repeatedTypes name names)) ∧
      (∀ name names, order.schema.build.outcome = .error (.enumAndTable name names) ↔
        schema.build.outcome = .error (.enumAndTable name names)) := by
  refine ⟨fun other => sameInSomeOrder_iff, fun order => ⟨?_, fun file hfile => ?_,
    fun name names => ?_, fun name names => ?_⟩⟩
  · simp only [DatabaseSchema.outcome_build_eq_ok_iff, exists_and_left, exists_eq', and_true,
      namesApart_rearranged]
  · obtain ⟨happart, rfl⟩ := DatabaseSchema.outcome_build_eq_ok_iff.mp hfile
    exact DatabaseSchema.outcome_build_eq_ok_iff.mpr
      ⟨(namesApart_rearranged order).mpr happart, declarationFile_rearranged order⟩
  · rw [DatabaseSchema.outcome_build_eq_error_iff, DatabaseSchema.outcome_build_eq_error_iff]
    exact collision?_rearranged order fun _ _ => by simp
  · rw [DatabaseSchema.outcome_build_eq_error_iff, DatabaseSchema.outcome_build_eq_error_iff]
    exact collision?_rearranged order fun _ _ => by simp

/-- A shop with two tables and an enum. -/
def shop : DatabaseSchema where
  schemaName := "public"
  tables := [
    ⟨"customer", "public", [⟨"id", "int4", false, none, none⟩,
      ⟨"mood", "mood", true, some "'calm'", none⟩]⟩,
    ⟨"invoice", "public", [⟨"total", "numeric", false, none, some "With taxes."⟩]⟩]
  enums := [⟨"mood", "public", ["calm", "angry"]⟩]

/-- The invoices first, and the mood of a customer before the number. -/
def shopOrder : Rearrangement shop where
  enums := [0]
  tables := [1, 0]
  columns := fun i => if i = 0 then [1, 0] else [0]
  enums_perm := by decide
  tables_perm := by decide
  columns_perm := by
    intro i table htable
    match i with
    | 0 =>
      obtain rfl := Option.some.inj htable
      decide
    | 1 =>
      obtain rfl := Option.some.inj htable
      decide
    | _ + 2 => cases htable

theorem build_rearranged_shop :
    shopOrder.schema.build.outcome = .ok (shopOrder.file shop.declarationFile) ∧
      (shopOrder.file shop.declarationFile).interfaces.map (fun interface =>
        (interface.name, interface.properties.map fun property =>
          (property.name, property.typeExpression)))
        = [("invoice", [("total", "string")]),
          ("customer", [("mood", "mood | null"), ("id", "number")])] := by
  have hbuilt : shop.build.outcome = .ok shop.declarationFile :=
    DatabaseSchema.outcome_build_eq_ok_iff.mpr ⟨by decide, rfl⟩
  exact ⟨((build_rearranged shop).2 shopOrder).2.1 _ hbuilt, by decide⟩

end Reports
end SchemaTypes

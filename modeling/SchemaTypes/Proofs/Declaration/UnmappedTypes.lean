import SchemaTypes.Proofs.Declaration.Content
import SchemaTypes.Proofs.Declaration.Place
import SchemaTypes.Proofs.TypeExpression

/-!
# Reports of unmapped types

Some native types are neither enums nor in the table of types, and their columns become `unknown`.
The builder goes through all columns once and remembers the types that it has met. What it leaves in
the log is said here without its memory (`ListsUnmapped`): a place for each of these types, the
first one where it is used, and the places in their order. There is only one such list
(`ListsUnmapped.unique`), since a type has only one first place.

Which types are reported is decided in one function, and which types become `unknown` for want of
anything better in another. They agree (`unmapped_types_reported`): the second one falls back on its
default for the reported types and for no others. So a column that is `unknown` was reported, unless
it is an enum that is called so or the table says that it has to be.
-/

namespace SchemaTypes

/-! ## Types that nothing is known of -/

namespace TypeMap

variable {nativeType : String} {enumNames : List String} {isNullable : Bool}

/-- What the enums and the table of types say of a native type, if they say anything. -/
def known? (nativeType : String) (enumNames : List String) : Option String :=
  if nativeType ∈ enumNames then some nativeType else table.lookup nativeType

/-- A type that nothing is known of has the default. -/
theorem mapType_eq_getD (nativeType : String) (enumNames : List String) :
    mapType nativeType enumNames = (known? nativeType enumNames).getD "unknown" := by
  rw [mapType, known?]
  split
  · rfl
  · rfl

theorem known?_eq_none_iff :
    known? nativeType enumNames = none ↔
      nativeType ∉ enumNames ∧ ∀ type, (nativeType, type) ∉ table := by
  rw [known?]
  split
  · rename_i hmem
    simp [hmem]
  · rename_i hmem
    simp only [Option.eq_none_iff_forall_ne_some, ne_eq, lookup_table_eq_some_iff, hmem,
      not_false_eq_true, true_and]

/-- The check for a type that is not mapped asks whether nothing is known of it. -/
theorem isUnmapped_iff (schema : DatabaseSchema) :
    schema.isUnmapped nativeType = true ↔ known? nativeType schema.enumNames = none := by
  rw [DatabaseSchema.isUnmapped, known?, isMapped]
  split
  · rename_i hmem
    simp [hmem]
  · rename_i hmem
    simp [hmem]

/-- A type that is no enum is one word, so an expression says `unknown` only if the type does. -/
theorem mapType_eq_unknown (henum : nativeType ∉ enumNames)
    (h : applyNullability (mapType nativeType enumNames) isNullable = "unknown" ∨
      applyNullability (mapType nativeType enumNames) isNullable = "unknown | null") :
    mapType nativeType enumNames = "unknown" := by
  have hwithout : mapType nativeType enumNames = mapType nativeType [] := by
    rw [mapType, mapType, if_neg henum, if_neg List.not_mem_nil]
  have hspace : ' ' ∉ (mapType nativeType enumNames).toList :=
    hwithout ▸ notMem_mapType (List.forall_mem_nil _) (Or.inl rfl) nativeType
  have hnull := mem_applyNullability_iff hspace isNullable
  rcases h with h | h
  · rw [h] at hnull
    have hfalse : isNullable = false := by simpa using hnull
    rwa [hfalse] at h
  · rw [h] at hnull
    have htrue : isNullable = true := by simpa using hnull
    have htext := congrArg String.toList h
    have hsplit : "unknown | null".toList = "unknown".toList ++ " | null".toList := by simp
    rw [toList_applyNullability, if_pos htrue] at htext
    exact String.toList_inj.mp (List.append_cancel_right (htext.trans hsplit))

end TypeMap

namespace DatabaseSchema

/-! ## Uses and their places -/

/-- The use of a native type at a place. -/
def use? (schema : DatabaseSchema) (place : ColumnPlace) : Option TypeUse :=
  schema.tables[place.table]?.bind fun table => table.columns[place.column]?.map fun column =>
    ⟨column.nativeType, table.name, column.name⟩

/-- Every use of a native type with its place, in the order of places. -/
def placedUses (schema : DatabaseSchema) : List (ColumnPlace × TypeUse) :=
  schema.tables.zipIdx.flatMap fun table => table.1.columns.zipIdx.map fun column =>
    (⟨table.2, column.2⟩, ⟨column.1.nativeType, table.1.name, column.1.name⟩)

variable {schema : DatabaseSchema} {place : ColumnPlace} {use : TypeUse}

theorem map_snd_placedUses (schema : DatabaseSchema) :
    schema.placedUses.map Prod.snd = schema.typeUses := by
  have hcolumns (table : Table) : table.columns.map
        (fun column => (⟨column.nativeType, table.name, column.name⟩ : TypeUse))
      = table.columns.zipIdx.map fun column =>
        ⟨column.1.nativeType, table.name, column.1.name⟩ := by
    conv_lhs => rw [← List.zipIdx_map_fst 0 table.columns]
    rw [List.map_map]
    rfl
  have htables : schema.typeUses = (schema.tables.zipIdx.map Prod.fst).flatMap fun table =>
      table.columns.map fun column => ⟨column.nativeType, table.name, column.name⟩ := by
    rw [List.zipIdx_map_fst, typeUses]
  rw [htables, placedUses, List.map_flatMap, List.flatMap_map]
  refine List.flatMap_congr fun table _ => ?_
  rw [hcolumns, List.map_map]
  rfl

theorem mem_placedUses : (place, use) ∈ schema.placedUses ↔ schema.use? place = some use := by
  obtain ⟨i, j⟩ := place
  simp only [placedUses, List.mem_flatMap, List.mem_map, Prod.mk.injEq, ColumnPlace.mk.injEq,
    List.mem_zipIdx_iff_getElem?, Prod.exists, use?, Option.bind_eq_some_iff,
    Option.map_eq_some_iff]
  constructor
  · rintro ⟨table, _, htable, column, _, hcolumn, ⟨rfl, rfl⟩, huse⟩
    exact ⟨table, htable, column, hcolumn, huse⟩
  · rintro ⟨table, htable, column, hcolumn, huse⟩
    exact ⟨table, i, htable, column, j, hcolumn, ⟨rfl, rfl⟩, huse⟩

theorem pairwise_zipIdx {α : Type} (items : List α) :
    items.zipIdx.Pairwise fun a b => a.2 < b.2 := by
  rw [← List.pairwise_map (f := Prod.snd) (R := (· < ·)), List.zipIdx_map_snd]
  exact List.pairwise_lt_range' _

/-- The uses come in the order of their places. -/
theorem pairwise_placedUses (schema : DatabaseSchema) :
    schema.placedUses.Pairwise fun a b => a.1.Before b.1 := by
  rw [placedUses, List.pairwise_flatMap]
  refine ⟨fun table _ => ?_, (pairwise_zipIdx schema.tables).imp fun htables a ha b hb => ?_⟩
  · rw [List.pairwise_map]
    exact (pairwise_zipIdx table.1.columns).imp fun hcolumns => Or.inr ⟨rfl, hcolumns⟩
  · obtain ⟨_, _, rfl⟩ := List.mem_map.mp ha
    obtain ⟨_, _, rfl⟩ := List.mem_map.mp hb
    exact Or.inl htables

/-! ## First uses -/

section FirstUses

variable {seen : List String} {item : ColumnPlace × TypeUse}
  {items listed : List (ColumnPlace × TypeUse)}

/-- Some uses are listed, each with its place: the first use of every native type that was not seen
before. -/
structure FirstOfEach (seen : List String) (items listed : List (ColumnPlace × TypeUse)) :
    Prop where
  sublist : listed.Sublist items
  unseen : ∀ item ∈ listed, item.2.nativeType ∉ seen
  first : ∀ item ∈ listed, ∃ before after, items = before ++ item :: after ∧
    ∀ earlier ∈ before, earlier.2.nativeType ≠ item.2.nativeType
  once : (listed.map (·.2.nativeType)).Nodup
  complete : ∀ item ∈ items, item.2.nativeType ∈ seen ∨
    item.2.nativeType ∈ listed.map (·.2.nativeType)

/-- A use whose type was seen is passed over. -/
theorem FirstOfEach.skip (h : FirstOfEach seen items listed) (hseen : item.2.nativeType ∈ seen) :
    FirstOfEach seen (item :: items) listed where
  sublist := h.sublist.cons item
  unseen := h.unseen
  first := by
    intro other hother
    obtain ⟨before, after, rfl, hbefore⟩ := h.first other hother
    refine ⟨item :: before, after, rfl, List.forall_mem_cons.mpr ⟨?_, hbefore⟩⟩
    exact fun heq => h.unseen other hother (heq ▸ hseen)
  once := h.once
  complete := List.forall_mem_cons.mpr ⟨Or.inl hseen, h.complete⟩

/-- A use whose type was not seen is listed, and its type is seen from then on. -/
theorem FirstOfEach.take (h : FirstOfEach (item.2.nativeType :: seen) items listed)
    (hseen : item.2.nativeType ∉ seen) : FirstOfEach seen (item :: items) (item :: listed) where
  sublist := h.sublist.cons_cons item
  unseen := List.forall_mem_cons.mpr
    ⟨hseen, fun other hother hmem => h.unseen other hother (List.mem_cons_of_mem _ hmem)⟩
  first := by
    refine List.forall_mem_cons.mpr ⟨⟨[], items, rfl, List.forall_mem_nil _⟩, ?_⟩
    intro other hother
    obtain ⟨before, after, rfl, hbefore⟩ := h.first other hother
    refine ⟨item :: before, after, rfl, List.forall_mem_cons.mpr ⟨?_, hbefore⟩⟩
    exact fun heq => h.unseen other hother (heq ▸ List.mem_cons_self)
  once := by
    refine List.nodup_cons.mpr ⟨fun hmem => ?_, h.once⟩
    obtain ⟨other, hother, heq⟩ := List.mem_map.mp hmem
    exact h.unseen other hother (heq ▸ List.mem_cons_self)
  complete := by
    refine List.forall_mem_cons.mpr ⟨Or.inr List.mem_cons_self, fun other hother => ?_⟩
    rcases h.complete other hother with hmem | hmem
    · rcases List.mem_cons.mp hmem with heq | hmem
      · exact Or.inr (heq ▸ List.mem_cons_self)
      · exact Or.inl hmem
    · exact Or.inr (List.mem_cons_of_mem _ hmem)

/-- What is kept of some uses is the first one of each type, wherever they stand. -/
theorem exists_firstOfEach (seen : List String) (items : List (ColumnPlace × TypeUse)) :
    ∃ listed, firstUses seen (items.map Prod.snd) = listed.map Prod.snd ∧
      FirstOfEach seen items listed := by
  induction items generalizing seen with
  | nil =>
    exact ⟨[], rfl, ⟨.slnil, List.forall_mem_nil _, List.forall_mem_nil _, List.nodup_nil,
      List.forall_mem_nil _⟩⟩
  | cons item items ih =>
    rw [List.map_cons, firstUses]
    split
    · rename_i hseen
      obtain ⟨listed, hkept, hfirst⟩ := ih seen
      exact ⟨listed, hkept, hfirst.skip (by simpa using hseen)⟩
    · rename_i hseen
      obtain ⟨listed, hkept, hfirst⟩ := ih (item.2.nativeType :: seen)
      exact ⟨item :: listed, by rw [hkept, List.map_cons], hfirst.take (by simpa using hseen)⟩

end FirstUses

/-! ## Reports -/

section Reports

variable {listed others : List (ColumnPlace × TypeUse)}

/-- At a place a native type is used that is used at no earlier place. -/
structure FirstSeen (schema : DatabaseSchema) (place : ColumnPlace) (use : TypeUse) : Prop where
  here : schema.use? place = some use
  notEarlier : ∀ earlier other, earlier.Before place → schema.use? earlier = some other →
    other.nativeType ≠ use.nativeType

/-- Some column has a native type. -/
def UsesType (schema : DatabaseSchema) (nativeType : String) : Prop :=
  ∃ table ∈ schema.tables, ∃ column ∈ table.columns, column.nativeType = nativeType

/-- The native types of a schema that are neither enums nor in the table of types, each with the
first place where it is used, in the order of these places. -/
structure ListsUnmapped (schema : DatabaseSchema) (listed : List (ColumnPlace × TypeUse)) :
    Prop where
  inOrder : listed.Pairwise fun a b => a.1.Before b.1
  firstSeen : ∀ item ∈ listed, FirstSeen schema item.1 item.2
  once : (listed.map (·.2.nativeType)).Nodup
  mem_iff : ∀ nativeType, nativeType ∈ listed.map (·.2.nativeType) ↔ schema.UsesType nativeType ∧
    nativeType ∉ schema.enumNames ∧ ∀ type, (nativeType, type) ∉ TypeMap.table

theorem usesType_iff {nativeType : String} :
    schema.UsesType nativeType ↔
      ∃ item ∈ schema.placedUses, item.2.nativeType = nativeType := by
  have htypes : schema.placedUses.map (·.2.nativeType)
      = schema.tables.flatMap fun table => table.columns.map (·.nativeType) := by
    rw [← Function.comp_def TypeUse.nativeType Prod.snd, ← List.map_map, map_snd_placedUses,
      typeUses, List.map_flatMap]
    simp only [List.map_map, Function.comp_def]
  rw [← List.mem_map, htypes]
  simp only [List.mem_flatMap, List.mem_map, UsesType]

theorem usesType_of_column? {column : Column} (h : schema.column? place = some column) :
    schema.UsesType column.nativeType := by
  obtain ⟨table, htable, hcolumn⟩ := Option.bind_eq_some_iff.mp h
  exact ⟨table, List.mem_of_getElem? htable, column, List.mem_of_getElem? hcolumn, rfl⟩

/-- A native type is seen for the first time at one place. -/
theorem FirstSeen.unique {other : ColumnPlace} {use' : TypeUse}
    (h : FirstSeen schema place use) (h' : FirstSeen schema other use')
    (htype : use.nativeType = use'.nativeType) : (place, use) = (other, use') := by
  rcases ColumnPlace.before_or_eq_or_before place other with hbefore | rfl | hbefore
  · exact absurd htype (h'.notEarlier _ _ hbefore h.here)
  · rw [Option.some.inj (h.here.symm.trans h'.here)]
  · exact absurd htype.symm (h.notEarlier _ _ hbefore h'.here)

theorem ListsUnmapped.subset (h : ListsUnmapped schema listed) (h' : ListsUnmapped schema others) :
    listed ⊆ others := by
  intro item hitem
  have htype : item.2.nativeType ∈ others.map (·.2.nativeType) :=
    (h'.mem_iff _).mpr ((h.mem_iff _).mp (List.mem_map_of_mem hitem))
  obtain ⟨other, hother, heq⟩ := List.mem_map.mp htype
  have hsame : item = other :=
    (h.firstSeen item hitem).unique (h'.firstSeen other hother) heq.symm
  exact hsame ▸ hother

/-- **There is one list of the unmapped types.** -/
theorem ListsUnmapped.unique (h : ListsUnmapped schema listed) (h' : ListsUnmapped schema others) :
    listed = others := by
  have hperm : listed.Perm others :=
    (List.perm_ext_iff_of_nodup (List.Nodup.of_map _ h.once) (List.Nodup.of_map _ h'.once)).mpr
      fun item => ⟨fun hitem => h.subset h' hitem, fun hitem => h'.subset h hitem⟩
  exact hperm.eq_of_pairwise (fun a b _ _ hab hba => absurd hba hab.asymm) h.inOrder h'.inOrder

/-- The uses of unmapped types with their places. -/
def unmappedPlaces (schema : DatabaseSchema) : List (ColumnPlace × TypeUse) :=
  schema.placedUses.filter fun item => schema.isUnmapped item.2.nativeType

theorem map_snd_unmappedPlaces (schema : DatabaseSchema) :
    schema.unmappedPlaces.map Prod.snd
      = schema.typeUses.filter fun use => schema.isUnmapped use.nativeType := by
  rw [← map_snd_placedUses, List.filter_map]
  rfl

theorem pairwise_unmappedPlaces (schema : DatabaseSchema) :
    schema.unmappedPlaces.Pairwise fun a b => a.1.Before b.1 :=
  (pairwise_placedUses schema).filter _

/-- The first one of the uses of an unmapped type stands where the type is first seen. -/
theorem firstSeen_of_firstOfEach (h : FirstOfEach [] schema.unmappedPlaces listed) :
    ∀ item ∈ listed, FirstSeen schema item.1 item.2 := by
  intro item hitem
  obtain ⟨hplaced, hunmapped⟩ := List.mem_filter.mp (h.sublist.subset hitem)
  refine ⟨mem_placedUses.mp hplaced, fun earlier other hbefore huse heq => ?_⟩
  -- An earlier use of the type would stand before this one, where there is none.
  obtain ⟨before, after, hsplit, hnone⟩ := h.first item hitem
  have hordered := pairwise_unmappedPlaces schema
  have hearlier : (earlier, other) ∈ before ++ item :: after := by
    rw [← hsplit]
    exact List.mem_filter.mpr ⟨mem_placedUses.mpr huse, heq ▸ hunmapped⟩
  rw [hsplit, List.pairwise_append, List.pairwise_cons] at hordered
  rcases List.mem_append.mp hearlier with hearlier | hearlier
  · exact hnone _ hearlier heq
  · rcases List.mem_cons.mp hearlier with rfl | hearlier
    · exact hbefore.asymm hbefore
    · exact hbefore.asymm (hordered.2.1.1 _ hearlier)

/-- Every unmapped type that is used has a first use, and nothing else has. -/
theorem mem_types_of_firstOfEach (h : FirstOfEach [] schema.unmappedPlaces listed)
    (nativeType : String) : nativeType ∈ listed.map (·.2.nativeType) ↔
      schema.UsesType nativeType ∧ schema.isUnmapped nativeType = true := by
  rw [usesType_iff]
  constructor
  · intro htype
    obtain ⟨item, hitem, rfl⟩ := List.mem_map.mp htype
    obtain ⟨hplaced, hunmapped⟩ := List.mem_filter.mp (h.sublist.subset hitem)
    exact ⟨⟨item, hplaced, rfl⟩, hunmapped⟩
  · rintro ⟨⟨item, hplaced, rfl⟩, hunmapped⟩
    exact (h.complete item (List.mem_filter.mpr ⟨hplaced, hunmapped⟩)).resolve_left
      List.not_mem_nil

/-- The uses that are reported are those of the unmapped types, at their first places. -/
theorem exists_listsUnmapped (schema : DatabaseSchema) :
    ∃ listed, ListsUnmapped schema listed ∧ schema.unmappedUses = listed.map Prod.snd := by
  obtain ⟨listed, hkept, hfirst⟩ := exists_firstOfEach [] schema.unmappedPlaces
  refine ⟨listed, ⟨(pairwise_unmappedPlaces schema).sublist hfirst.sublist,
    firstSeen_of_firstOfEach hfirst, hfirst.once, fun nativeType => ?_⟩, ?_⟩
  · rw [mem_types_of_firstOfEach hfirst, TypeMap.isUnmapped_iff, TypeMap.known?_eq_none_iff]
  · rw [← hkept, unmappedUses, map_snd_unmappedPlaces]

/-- **Every unmapped type is reported once, where it is first seen, and nothing else is.** In a
schema that is accepted, these are the types for which the enums and the table of types leave only
the default. A column that is called unknown, and is no enum, has a type that was reported once or
one that the table calls so. -/
theorem unmapped_types_reported {file : DeclarationFile} (h : schema.build.outcome = .ok file) :
    (∀ nativeType, TypeMap.mapType nativeType schema.enumNames
      = (TypeMap.known? nativeType schema.enumNames).getD "unknown") ∧
    ∃! listed, ListsUnmapped schema listed ∧
      schema.build.log = listed.map (fun item => ⟨.info, .builder,
        "No TypeScript mapping for type " ++ item.2.nativeType ++ " (first seen on "
          ++ item.2.tableName ++ "." ++ item.2.columnName ++ "), using unknown"⟩) ∧
      (∀ nativeType, nativeType ∈ listed.map (·.2.nativeType) ↔
        schema.UsesType nativeType ∧ TypeMap.known? nativeType schema.enumNames = none) ∧
      ∀ place column property, schema.column? place = some column →
        file.property? place = some property → column.nativeType ∉ schema.enumNames →
        property.typeExpression = "unknown" ∨ property.typeExpression = "unknown | null" →
          (listed.map (·.2.nativeType)).count column.nativeType = 1 ∨
            (column.nativeType, "unknown") ∈ TypeMap.table := by
  obtain ⟨happart, rfl⟩ := outcome_build_eq_ok_iff.mp h
  obtain ⟨listed, hlists, huses⟩ := exists_listsUnmapped schema
  have hlog : schema.build.log = schema.unmappedUses.map (·.report) := by
    rw [build, collision?_eq_none_iff.mpr happart]
  have htypes : ∀ nativeType, nativeType ∈ listed.map (·.2.nativeType) ↔
      schema.UsesType nativeType ∧ TypeMap.known? nativeType schema.enumNames = none := by
    intro nativeType
    rw [hlists.mem_iff, TypeMap.known?_eq_none_iff]
  refine ⟨fun nativeType => TypeMap.mapType_eq_getD nativeType _, listed,
    ⟨hlists, ?_, htypes, ?_⟩, fun others hothers => hothers.1.unique hlists⟩
  · rw [hlog, huses, List.map_map]
    rfl
  · intro place column property hcolumn hproperty henum hunknown
    rw [property?_declarationFile, hcolumn] at hproperty
    obtain rfl := Option.some.inj hproperty
    have hbase := TypeMap.mapType_eq_unknown henum hunknown
    rw [TypeMap.mapType_eq_getD] at hbase
    cases hknown : TypeMap.known? column.nativeType schema.enumNames with
    | none =>
      exact Or.inl (List.count_eq_one_of_mem hlists.once
        ((htypes _).mpr ⟨usesType_of_column? hcolumn, hknown⟩))
    | some type =>
      rw [hknown, Option.getD_some] at hbase
      rw [TypeMap.known?, if_neg henum, hbase] at hknown
      exact Or.inr (TypeMap.lookup_table_eq_some_iff.mp hknown)

/-- A map has types of its own, one of them in both tables, and columns of types that are mapped. -/
def townMap : DatabaseSchema where
  schemaName := "public"
  tables := [
    ⟨"place", "public", [⟨"id", "int4", false, none, none⟩, ⟨"shape", "geometry", true, none, none⟩,
      ⟨"tags", "jsonb", true, none, none⟩]⟩,
    ⟨"road", "public", [⟨"kind", "surface", false, none, none⟩,
      ⟨"course", "geometry", false, none, none⟩, ⟨"notes", "hstore", true, none, none⟩]⟩]
  enums := [⟨"surface", "public", ["paved", "gravel"]⟩]

theorem unmapped_types_townMap :
    townMap.build.outcome = .ok townMap.declarationFile ∧
      ∃ listed, ListsUnmapped townMap listed ∧
        townMap.build.log = listed.map (fun item => ⟨.info, .builder,
          "No TypeScript mapping for type " ++ item.2.nativeType ++ " (first seen on "
            ++ item.2.tableName ++ "." ++ item.2.columnName ++ "), using unknown"⟩) ∧
        (listed.map (·.2.nativeType)).count "geometry" = 1 := by
  have hbuilt : townMap.build.outcome = .ok townMap.declarationFile :=
    outcome_build_eq_ok_iff.mpr ⟨by decide, rfl⟩
  obtain ⟨-, listed, ⟨hlists, hlog, -, hunknown⟩, -⟩ := unmapped_types_reported hbuilt
  refine ⟨hbuilt, listed, hlists, hlog, ?_⟩
  exact (hunknown ⟨1, 1⟩ _ _ rfl rfl (by decide) (Or.inl (by decide))).resolve_right (by decide)

end Reports

end DatabaseSchema
end SchemaTypes

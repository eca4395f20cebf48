import SchemaTypes.Proofs.Fallible
import SchemaTypes.Proofs.Value.Entry
import SchemaTypes.Validation.Assignment

/-!
# Records under assignments

An assignment that is accepted does one of three things (`Assigns`). A hidden name leaves the fields
as they are, all fields can be given at once, and in an open record a field is given a value. From
this it follows by induction what any number of assignments does.

A frozen record keeps its fields, unless all of them are given at once, which even a frozen record
does not prevent (`frozen_assignAll`). No assignment adds a field that the record did not have at
first (`keys_assignAll`). And a field has the value that it was given last, or its first one if it
was given none (`field?_assignAll`).
-/

namespace SchemaTypes
namespace Assignment

/-! ## One assignment -/

/-- A name that begins with an underscore. -/
def IsHidden (name : String) : Prop :=
  name.toList.head? = some '_'

/-- The name of all the fields at once. -/
def allFields : String := "__dict__"

/-- The fields of the given names that a map has. -/
def fieldsOf (names : List String) (entries : List (Value × Value)) : List (Value × Value) :=
  names.filterMap fun name => (Value.field? entries name).map fun value => (.text name, value)

/-- What becomes of the fields of a record by an assignment that is accepted. -/
inductive Assigns (mutability : Mutability) (names : List String) (fields : List (Value × Value)) :
    String × Value → List (Value × Value) → Prop
  | hidden {name : String} {value : Value} : IsHidden name → name ≠ allFields →
    Assigns mutability names fields (name, value) fields
  | all (entries : List (Value × Value)) :
    Assigns mutability names fields (allFields, .map entries) (fieldsOf names entries)
  | field {name : String} {value : Value} : mutability = .opened → ¬ IsHidden name →
    name ∈ names → Assigns mutability names fields (name, value)
      (Value.insertEntry (.text name) value fields)

section Steps

variable {mutability : Mutability} {record : String} {names : List String}
  {fields fields' : List (Value × Value)} {assignment : String × Value}

/-- **An assignment that is accepted** does one of three things. -/
theorem assigns_of_assign (h : assign mutability record names fields assignment = .ok fields') :
    Assigns mutability names fields assignment fields' := by
  obtain ⟨name, value⟩ := assignment
  rw [assign] at h
  split at h
  · rename_i hhidden
    unfold assignHidden at h
    split at h
    · cases h
    · cases h
    · cases h
    · cases h
      exact .all _
    · cases h
    · cases h
      rename_i hname _
      exact .hidden (beq_iff_eq.mp hhidden) hname
  · rename_i hhidden
    unfold assignField at h
    split at h
    · cases h
    · split at h
      · rename_i hname
        cases h
        exact .field rfl (fun h => hhidden (beq_iff_eq.mpr h)) (List.contains_iff_mem.mp hname)
      · split at h
        · cases h
        · cases h

theorem isHidden_allFields : IsHidden allFields := by
  show "__dict__".toList.head? = some '_'
  decide

/-- In a frozen record nothing but a hidden name is assigned. -/
theorem Assigns.isHidden_of_frozen (h : Assigns .frozen names fields assignment fields') :
    IsHidden assignment.1 := by
  cases h with
  | hidden hname _ => exact hname
  | all entries => exact isHidden_allFields
  | field hopened _ _ => cases hopened

theorem Assigns.eq_of_frozen (h : Assigns .frozen names fields assignment fields')
    (hall : assignment.1 ≠ allFields) : fields' = fields := by
  cases h with
  | hidden _ _ => rfl
  | all entries => exact absurd rfl hall
  | field hopened _ _ => cases hopened

/-- Every key of the fields is among some keys. -/
def KeysAmong (keys : List Value) (fields : List (Value × Value)) : Prop :=
  ∀ entry ∈ fields, entry.1 ∈ keys

/-- No field is added beyond those whose names are there. -/
theorem Assigns.keysAmong {keys : List Value}
    (h : Assigns mutability names fields assignment fields')
    (hnames : ∀ name ∈ names, .text name ∈ keys) (hfields : KeysAmong keys fields) :
    KeysAmong keys fields' := by
  cases h with
  | hidden _ _ => exact hfields
  | all entries =>
    intro entry hentry
    obtain ⟨name, hname, hvalue⟩ := List.mem_filterMap.mp hentry
    obtain ⟨value, -, rfl⟩ := Option.map_eq_some_iff.mp hvalue
    exact hnames name hname
  | @field name value _ _ hname =>
    intro entry hentry
    by_cases hkey : entry.1 = .text name
    · rw [hkey]
      exact hnames name hname
    · exact hfields entry ((Value.mem_insertEntry_iff hkey).mp hentry)

/-- A field has the value that it is given, and the other fields keep theirs. -/
theorem Assigns.field?_eq {name : String} (h : Assigns mutability names fields assignment fields')
    (hall : assignment.1 ≠ allFields) (hname : ¬ IsHidden name) :
    Value.field? fields' name =
      if assignment.1 = name then some assignment.2 else Value.field? fields name := by
  cases h with
  | hidden hhidden _ =>
    rw [if_neg]
    rintro rfl
    exact hname hhidden
  | all entries => exact absurd rfl hall
  | field _ _ _ => exact Value.field?_insertEntry _ _ _ _

end Steps

/-! ## All assignments -/

/-- What becomes of the fields of a record by assignments one after the other, all of which are
accepted. -/
inductive AssignsAll (mutability : Mutability) (names : List String) :
    List (Value × Value) → List (String × Value) → List (Value × Value) → Prop
  | nil (fields : List (Value × Value)) : AssignsAll mutability names fields [] fields
  | cons {fields middle fields' : List (Value × Value)} {assignment : String × Value}
    {rest : List (String × Value)} : Assigns mutability names fields assignment middle →
      AssignsAll mutability names middle rest fields' →
        AssignsAll mutability names fields (assignment :: rest) fields'

section Runs

variable {mutability : Mutability} {record : String} {names : List String}
  {fields fields' : List (Value × Value)} {assignments : List (String × Value)}

theorem assignsAll_of_assignAll
    (h : assignAll mutability record fields assignments = .ok fields') :
    AssignsAll mutability (fields.filterMap (·.1.text?)) fields assignments fields' := by
  rw [assignAll] at h
  generalize fields.filterMap (·.1.text?) = names at h ⊢
  induction assignments generalizing fields with
  | nil =>
    cases h
    exact .nil _
  | cons assignment rest ih =>
    rw [List.foldlM_cons, bind_eq_ok_iff] at h
    obtain ⟨middle, hfirst, hrest⟩ := h
    exact .cons (assigns_of_assign hfirst) (ih hrest)

/-- **A frozen record keeps its fields.** Nothing but hidden names is assigned in it, and unless all
the fields are given at once, they stay as they are. -/
theorem frozen_assignAll (h : assignAll .frozen record fields assignments = .ok fields') :
    (∀ assignment ∈ assignments, IsHidden assignment.1) ∧
      ((∀ assignment ∈ assignments, assignment.1 ≠ allFields) → fields' = fields) := by
  have hall := assignsAll_of_assignAll h
  clear h
  generalize fields.filterMap (·.1.text?) = names at hall
  induction hall with
  | nil fields => exact ⟨nofun, fun _ => rfl⟩
  | cons hfirst _ ih =>
    refine ⟨List.forall_mem_cons.mpr ⟨hfirst.isHidden_of_frozen, ih.1⟩, fun hnames => ?_⟩
    obtain ⟨hname, hrest⟩ := List.forall_mem_cons.mp hnames
    exact (ih.2 hrest).trans (hfirst.eq_of_frozen hname)

/-- **No field is added** to a record by any assignments. -/
theorem keys_assignAll (h : assignAll mutability record fields assignments = .ok fields') :
    KeysAmong (fields.map (·.1)) fields' := by
  have hnames : ∀ name ∈ fields.filterMap (·.1.text?), .text name ∈ fields.map (·.1) := by
    intro name hname
    obtain ⟨⟨key, value⟩, hentry, htext⟩ := List.mem_filterMap.mp hname
    cases key with
    | text s =>
      cases htext
      exact List.mem_map.mpr ⟨_, hentry, rfl⟩
    | _ => cases htext
  have hkeys : KeysAmong (fields.map (·.1)) fields := fun entry hentry =>
    List.mem_map.mpr ⟨entry, hentry, rfl⟩
  have hall := assignsAll_of_assignAll h
  clear h
  generalize fields.filterMap (·.1.text?) = names at hall hnames
  generalize fields.map (·.1) = keys at hkeys hnames ⊢
  induction hall with
  | nil fields => exact hkeys
  | cons hfirst _ ih => exact ih (hfirst.keysAmong hnames hkeys)

/-- **The last value stays**: a field has the value that it was given last, and its first one if it
was given none. -/
theorem field?_assignAll (h : assignAll mutability record fields assignments = .ok fields')
    (hnames : ∀ assignment ∈ assignments, assignment.1 ≠ allFields) {name : String}
    (hname : ¬ IsHidden name) :
    Value.field? fields' name =
      (assignments.reverse.lookup name).or (Value.field? fields name) := by
  have hall := assignsAll_of_assignAll h
  clear h
  generalize fields.filterMap (·.1.text?) = names at hall
  induction hall with
  | nil fields => rfl
  | @cons fields middle fields' assignment rest hfirst _ ih =>
    obtain ⟨hgiven, hrest⟩ := List.forall_mem_cons.mp hnames
    obtain ⟨given, value⟩ := assignment
    rw [ih hrest, hfirst.field?_eq hgiven hname, List.reverse_cons, List.lookup_append,
      Option.or_assoc]
    by_cases hsame : given = name
    · subst hsame
      simp
    · have hne : (name == given) = false := beq_eq_false_iff_ne.mpr (Ne.symm hsame)
      simp [hsame, List.lookup_cons, hne]

end Runs

end Assignment
end SchemaTypes

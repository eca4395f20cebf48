import Mathlib.Data.List.Forall2
import SchemaTypes.Proofs.Settings.Accepted
import SchemaTypes.Validation.DeclarationRecords

/-!
# Building records is a projection

A record is built from a map and written out as a map. The map that is written is accepted as the
record that it was written from, whatever map the record was built from; so what texts, truth values
and numbers were spelled like, and which fields were left to their defaults, makes a difference once
and never again.

Fields that a record does not know may stand in a map anywhere: in the map of the record itself,
and in the maps of the records inside it. `AddedToFields` says that a map is another one with such
fields added. What may be added to the value of a known field depends on the field: nothing where a
scalar is expected (`Eq`), and where a record or a list of records is expected, unknown fields of
these records (`AddedToMap`, `AddedToItems`). A check is built from checks of the fields, and each
of its parts ignores what may be added (`Ignores`).

Both are proved for every kind of records, from the innermost ones outwards (`records_project`).
-/

namespace SchemaTypes

/-! ## Unknown fields -/

/-- What one value may have that another one does not. -/
abbrev Addition := Value → Value → Prop

/-- Something added to the items of a list. -/
inductive AddedToItems (added : Addition) : Addition
  | list {items items' : List Value} : List.Forall₂ added items items' →
    AddedToItems added (.list items) (.list items')
  | other (value : Value) : AddedToItems added value value

/-- Something added to the entries of a map. -/
inductive AddedToMap (added : List (Value × Value) → List (Value × Value) → Prop) : Addition
  | map {entries entries' : List (Value × Value)} : added entries entries' →
    AddedToMap added (.map entries) (.map entries')
  | other (value : Value) : AddedToMap added value value

/-- Unknown fields added to the map of a record with the given fields, and to the values of its
fields what may be added to them. -/
inductive AddedToFields (known : List (String × Addition)) :
    List (Value × Value) → List (Value × Value) → Prop
  | nil : AddedToFields known [] []
  | field {name : String} {added : Addition} {value value' : Value}
    {entries entries' : List (Value × Value)} : known.lookup name = some added →
    added value value' → AddedToFields known entries entries' →
      AddedToFields known ((.text name, value) :: entries) ((.text name, value') :: entries')
  | other {entry : Value × Value} {entries entries' : List (Value × Value)} :
    (∀ name, entry.1 = .text name → known.lookup name = none) →
    AddedToFields known entries entries' →
      AddedToFields known (entry :: entries) (entry :: entries')
  | added {entry : Value × Value} {entries entries' : List (Value × Value)} :
    (∀ name, entry.1 = .text name → known.lookup name = none) →
    AddedToFields known entries entries' → AddedToFields known entries (entry :: entries')

/-- A check to which an addition makes no difference. -/
def Ignores {α : Type} (added : Addition) (check : Value → Checked α) : Prop :=
  ∀ value value', added value value' → check value' = check value

/-- A check of the fields of a record to which unknown fields make no difference. -/
def IgnoresUnknown {α : Type} (added : List (Value × Value) → List (Value × Value) → Prop)
    (check : List (Value × Value) → Checked α) : Prop :=
  ∀ entries entries', added entries entries' → check entries' = check entries

section Additions

variable {α : Type} {check : Value → Checked α} {added : Addition}
  {known : List (String × Addition)} {entries entries' : List (Value × Value)}

theorem ignores_eq (check : Value → Checked α) : Ignores Eq check := by
  rintro value _ rfl
  rfl

theorem itemsFrom_eq_of_added (h : Ignores added check) {items items' : List Value}
    (hitems : List.Forall₂ added items items') (position : Nat) :
    Check.itemsFrom check position items' = Check.itemsFrom check position items := by
  induction hitems generalizing position with
  | nil => rfl
  | cons hitem _ ih => rw [Check.itemsFrom, Check.itemsFrom, h _ _ hitem, ih]

theorem ignores_listOf (h : Ignores added check) :
    Ignores (AddedToItems added) (Check.listOf check) := by
  rintro _ _ (hitems | _)
  · exact itemsFrom_eq_of_added h hitems 0
  · rfl

theorem IgnoresUnknown.record {addedFields : List (Value × Value) → List (Value × Value) → Prop}
    {checkFields : List (Value × Value) → Checked α} (h : IgnoresUnknown addedFields checkFields)
    (name : String) : Ignores (AddedToMap addedFields) (Check.record name checkFields) := by
  rintro _ _ (hentries | _)
  · exact h _ _ hentries
  · rfl

/-- An unknown entry is not looked at where a known field is wanted. -/
theorem field?_cons_of_unknown {entry : Value × Value} {name : String}
    (hentry : ∀ name, entry.1 = .text name → known.lookup name = none)
    (hname : known.lookup name = some added) :
    Value.field? (entry :: entries) name = Value.field? entries name := by
  rw [Value.field?_cons, if_neg]
  intro htext
  rw [hentry name (Value.isText_iff.mp htext)] at hname
  cases hname

/-- **A known field is there with what may be added to it, or in neither map.** -/
theorem AddedToFields.field? (h : AddedToFields known entries entries') {name : String}
    (hname : known.lookup name = some added) :
    (Value.field? entries name = none ∧ Value.field? entries' name = none) ∨
      ∃ value value', Value.field? entries name = some value ∧
        Value.field? entries' name = some value' ∧ added value value' := by
  induction h with
  | nil => exact .inl ⟨rfl, rfl⟩
  | @field other addedToOther value value' entries entries' hother hadded _ ih =>
    rw [Value.field?_cons, Value.field?_cons]
    by_cases heq : other = name
    · subst heq
      rw [hother, Option.some_inj] at hname
      subst hname
      exact .inr ⟨value, value', by simp [Value.isText], by simp [Value.isText], hadded⟩
    · simpa [Value.isText, heq] using ih
  | other hentry _ ih =>
    rw [field?_cons_of_unknown hentry hname, field?_cons_of_unknown hentry hname]
    exact ih
  | added hentry _ ih =>
    rw [field?_cons_of_unknown hentry hname]
    exact ih

theorem AddedToFields.required (h : AddedToFields known entries entries') (name : String)
    (hname : known.lookup name = some added) (hcheck : Ignores added check) :
    Check.required entries' name check = Check.required entries name check := by
  rw [Check.required, Check.required]
  obtain ⟨hnone, hnone'⟩ | ⟨value, value', hvalue, hvalue', hadded⟩ := h.field? hname
  · rw [hnone, hnone']
  · rw [hvalue, hvalue']
    dsimp only
    rw [hcheck _ _ hadded]

theorem AddedToFields.withDefault (h : AddedToFields known entries entries') (name : String)
    {default : α} (hname : known.lookup name = some added) (hcheck : Ignores added check) :
    Check.withDefault entries' name default check
      = Check.withDefault entries name default check := by
  rw [Check.withDefault, Check.withDefault]
  obtain ⟨hnone, hnone'⟩ | ⟨value, value', hvalue, hvalue', hadded⟩ := h.field? hname
  · rw [hnone, hnone']
  · rw [hvalue, hvalue']
    dsimp only
    rw [hcheck _ _ hadded]

end Additions

/-! ## Written maps -/

section Written

variable {α β : Type} {name : String} {value : Value} {check : Value → Checked α}
  {fields : List (String × Value)} {a : α}

theorem map_valid {checked : Checked α} {f : α → β} (h : checked = .valid a) :
    f <$> checked = .valid (f a) :=
  Checked.map_eq_valid_iff.mpr ⟨a, h, rfl⟩

theorem seq_valid {checked : Checked (α → β)} {argument : Checked α} {f : α → β}
    (h : checked = .valid f) (h' : argument = .valid a) : checked <*> argument = .valid (f a) :=
  Checked.seq_eq_valid_iff.mpr ⟨f, a, h, h', rfl⟩

/-- A field that is written is accepted if its value is. -/
theorem required_ofFields (hfield : fields.lookup name = some value)
    (hvalue : check value = .valid a) :
    Check.required (fields.map fun field => (.text field.1, field.2)) name check = .valid a :=
  Check.required_eq_valid_iff.mpr ⟨value, (Value.field?_ofFields fields name).trans hfield, hvalue⟩

theorem withDefault_ofFields {default : α} (hfield : fields.lookup name = some value)
    (hvalue : check value = .valid a) :
    Check.withDefault (fields.map fun field => (.text field.1, field.2)) name default check
      = .valid a :=
  Check.withDefault_eq_valid_iff.mpr
    (.inr ⟨value, (Value.field?_ofFields fields name).trans hfield, hvalue⟩)

theorem record_ofFields {checkFields : List (Value × Value) → Checked α}
    (h : checkFields (fields.map fun field => (.text field.1, field.2)) = .valid a)
    (name : String) :
    Check.record name checkFields (.ofFields fields) = .valid a := h

theorem optional_ofOption (s : Option String) :
    Check.optional Check.text (.ofOption s) = .valid s := by
  cases s <;> rfl

theorem itemsFrom_map {toValue : α → Value} (h : ∀ a, check (toValue a) = .valid a) (as : List α)
    (position : Nat) : Check.itemsFrom check position (as.map toValue) = .valid as := by
  induction as generalizing position with
  | nil => rfl
  | cons a as ih =>
    rw [List.map_cons, Check.itemsFrom, h, ih]
    rfl

/-- A list that is written item by item is read as that list. -/
theorem listOf_map {toValue : α → Value} (h : ∀ a, check (toValue a) = .valid a) (as : List α) :
    Check.listOf check (.list (as.map toValue)) = .valid as :=
  itemsFrom_map h as 0

theorem text_text (s : String) : Check.text (.text s) = .valid s := rfl

theorem listOf_texts (texts : List String) :
    Check.listOf Check.text (.ofTexts texts) = .valid texts :=
  listOf_map text_text texts

end Written

/-! ## The records of a schema -/

namespace Column

/-- Unknown fields added to a column. -/
def Added : List (Value × Value) → List (Value × Value) → Prop :=
  AddedToFields [("name", Eq), ("native_type", Eq), ("is_nullable", Eq), ("default_value", Eq),
    ("comment", Eq)]

theorem record_toValue (column : Column) :
    Check.record "Column" check column.toValue = .valid column := by
  obtain ⟨name, nativeType, isNullable, defaultValue, comment⟩ := column
  refine record_ofFields ?_ _
  rw [check]
  exact seq_valid (seq_valid (seq_valid (seq_valid (map_valid (required_ofFields rfl rfl))
    (required_ofFields rfl rfl)) (required_ofFields rfl rfl))
    (withDefault_ofFields rfl (optional_ofOption defaultValue)))
    (withDefault_ofFields rfl (optional_ofOption comment))

theorem ignoresUnknown : IgnoresUnknown Added check := by
  intro entries entries' h
  rw [check, check, h.required "name" rfl (ignores_eq _),
    h.required "native_type" rfl (ignores_eq _), h.required "is_nullable" rfl (ignores_eq _),
    h.withDefault "default_value" rfl (ignores_eq _),
    h.withDefault "comment" rfl (ignores_eq _)]

end Column

namespace Table

/-- Unknown fields added to a table and its columns. -/
def Added : List (Value × Value) → List (Value × Value) → Prop :=
  AddedToFields [("name", Eq), ("schema_name", Eq),
    ("columns", AddedToItems (AddedToMap Column.Added))]

theorem record_toValue (table : Table) :
    Check.record "Table" check table.toValue = .valid table := by
  obtain ⟨name, schemaName, columns⟩ := table
  refine record_ofFields ?_ _
  rw [check]
  exact seq_valid (seq_valid (map_valid (required_ofFields rfl rfl)) (required_ofFields rfl rfl))
    (withDefault_ofFields rfl (listOf_map Column.record_toValue columns))

theorem ignoresUnknown : IgnoresUnknown Added check := by
  intro entries entries' h
  rw [check, check, h.required "name" rfl (ignores_eq _),
    h.required "schema_name" rfl (ignores_eq _),
    h.withDefault "columns" rfl (ignores_listOf (Column.ignoresUnknown.record _))]

end Table

namespace EnumType

/-- Unknown fields added to an enum type. -/
def Added : List (Value × Value) → List (Value × Value) → Prop :=
  AddedToFields [("name", Eq), ("schema_name", Eq), ("labels", Eq)]

theorem record_toValue (enum : EnumType) :
    Check.record "EnumType" check enum.toValue = .valid enum := by
  obtain ⟨name, schemaName, labels⟩ := enum
  refine record_ofFields ?_ _
  rw [check]
  exact seq_valid (seq_valid (map_valid (required_ofFields rfl rfl)) (required_ofFields rfl rfl))
    (withDefault_ofFields rfl (listOf_texts labels))

theorem ignoresUnknown : IgnoresUnknown Added check := by
  intro entries entries' h
  rw [check, check, h.required "name" rfl (ignores_eq _),
    h.required "schema_name" rfl (ignores_eq _),
    h.withDefault "labels" rfl (ignores_eq _)]

end EnumType

namespace DatabaseSchema

/-- Unknown fields added to a schema, its tables and its enum types. -/
def Added : List (Value × Value) → List (Value × Value) → Prop :=
  AddedToFields [("schema_name", Eq), ("tables", AddedToItems (AddedToMap Table.Added)),
    ("enums", AddedToItems (AddedToMap EnumType.Added))]

theorem record_toValue (schema : DatabaseSchema) :
    Check.record "DatabaseSchema" check schema.toValue = .valid schema := by
  obtain ⟨schemaName, tables, enums⟩ := schema
  refine record_ofFields ?_ _
  rw [check]
  exact seq_valid (seq_valid (map_valid (withDefault_ofFields rfl rfl))
    (withDefault_ofFields rfl (listOf_map Table.record_toValue tables)))
    (withDefault_ofFields rfl (listOf_map EnumType.record_toValue enums))

theorem ignoresUnknown : IgnoresUnknown Added check := by
  intro entries entries' h
  rw [check, check, h.withDefault "schema_name" rfl (ignores_eq _),
    h.withDefault "tables" rfl (ignores_listOf (Table.ignoresUnknown.record _)),
    h.withDefault "enums" rfl (ignores_listOf (EnumType.ignoresUnknown.record _))]

end DatabaseSchema

/-! ## Declarations -/

namespace UnionDeclaration

/-- Unknown fields added to a union. -/
def Added : List (Value × Value) → List (Value × Value) → Prop :=
  AddedToFields [("name", Eq), ("members", Eq)]

theorem record_toValue (union : UnionDeclaration) :
    Check.record "UnionDeclaration" check union.toValue = .valid union := by
  obtain ⟨name, members⟩ := union
  refine record_ofFields ?_ _
  rw [check]
  exact seq_valid (map_valid (required_ofFields rfl rfl))
    (withDefault_ofFields rfl (listOf_texts members))

theorem ignoresUnknown : IgnoresUnknown Added check := by
  intro entries entries' h
  rw [check, check, h.required "name" rfl (ignores_eq _),
    h.withDefault "members" rfl (ignores_eq _)]

end UnionDeclaration

namespace Property

/-- Unknown fields added to an interface member. -/
def Added : List (Value × Value) → List (Value × Value) → Prop :=
  AddedToFields [("name", Eq), ("type_expression", Eq), ("comment", Eq), ("default_value", Eq)]

theorem record_toValue (property : Property) :
    Check.record "FieldDeclaration" check property.toValue = .valid property := by
  obtain ⟨name, typeExpression, comment, defaultValue⟩ := property
  refine record_ofFields ?_ _
  rw [check]
  exact seq_valid (seq_valid (seq_valid (map_valid (required_ofFields rfl rfl))
    (required_ofFields rfl rfl)) (withDefault_ofFields rfl (optional_ofOption comment)))
    (withDefault_ofFields rfl (optional_ofOption defaultValue))

theorem ignoresUnknown : IgnoresUnknown Added check := by
  intro entries entries' h
  rw [check, check, h.required "name" rfl (ignores_eq _),
    h.required "type_expression" rfl (ignores_eq _), h.withDefault "comment" rfl (ignores_eq _),
    h.withDefault "default_value" rfl (ignores_eq _)]

end Property

namespace InterfaceDeclaration

/-- Unknown fields added to an interface and its members. -/
def Added : List (Value × Value) → List (Value × Value) → Prop :=
  AddedToFields [("name", Eq), ("properties", AddedToItems (AddedToMap Property.Added))]

theorem record_toValue (interface : InterfaceDeclaration) :
    Check.record "InterfaceDeclaration" check interface.toValue = .valid interface := by
  obtain ⟨name, properties⟩ := interface
  refine record_ofFields ?_ _
  rw [check]
  exact seq_valid (map_valid (required_ofFields rfl rfl))
    (withDefault_ofFields rfl (listOf_map Property.record_toValue properties))

theorem ignoresUnknown : IgnoresUnknown Added check := by
  intro entries entries' h
  rw [check, check, h.required "name" rfl (ignores_eq _),
    h.withDefault "properties" rfl (ignores_listOf (Property.ignoresUnknown.record _))]

end InterfaceDeclaration

namespace RegistryEntry

/-- Unknown fields added to a registry entry. -/
def Added : List (Value × Value) → List (Value × Value) → Prop :=
  AddedToFields [("table_name", Eq), ("interface_name", Eq)]

theorem record_toValue (entry : RegistryEntry) :
    Check.record "RegistryEntry" check entry.toValue = .valid entry := by
  obtain ⟨tableName, interfaceName⟩ := entry
  refine record_ofFields ?_ _
  rw [check]
  exact seq_valid (map_valid (required_ofFields rfl rfl)) (required_ofFields rfl rfl)

theorem ignoresUnknown : IgnoresUnknown Added check := by
  intro entries entries' h
  rw [check, check, h.required "table_name" rfl (ignores_eq _),
    h.required "interface_name" rfl (ignores_eq _)]

end RegistryEntry

namespace Registry

/-- Unknown fields added to a registry and its entries. -/
def Added : List (Value × Value) → List (Value × Value) → Prop :=
  AddedToFields [("module", Eq), ("interface_name", Eq),
    ("entries", AddedToItems (AddedToMap RegistryEntry.Added))]

theorem record_toValue (registry : Registry) :
    Check.record "RegistryDeclaration" check registry.toValue = .valid registry := by
  obtain ⟨moduleName, interfaceName, entries⟩ := registry
  refine record_ofFields ?_ _
  rw [check]
  exact seq_valid (seq_valid (map_valid (withDefault_ofFields rfl rfl))
    (withDefault_ofFields rfl rfl))
    (withDefault_ofFields rfl (listOf_map RegistryEntry.record_toValue entries))

theorem ignoresUnknown : IgnoresUnknown Added check := by
  intro entries entries' h
  rw [check, check, h.withDefault "module" rfl (ignores_eq _),
    h.withDefault "interface_name" rfl (ignores_eq _),
    h.withDefault "entries" rfl (ignores_listOf (RegistryEntry.ignoresUnknown.record _))]

end Registry

namespace DeclarationFile

/-- Unknown fields added to a declaration file, its declarations and its registry. -/
def Added : List (Value × Value) → List (Value × Value) → Prop :=
  AddedToFields [("unions", AddedToItems (AddedToMap UnionDeclaration.Added)),
    ("interfaces", AddedToItems (AddedToMap InterfaceDeclaration.Added)),
    ("registry", AddedToMap Registry.Added)]

theorem record_toValue (file : DeclarationFile) :
    Check.record "DeclarationFile" check file.toValue = .valid file := by
  obtain ⟨unions, interfaces, registry⟩ := file
  refine record_ofFields ?_ _
  rw [check]
  exact seq_valid (seq_valid (map_valid
    (withDefault_ofFields rfl (listOf_map UnionDeclaration.record_toValue unions)))
    (withDefault_ofFields rfl (listOf_map InterfaceDeclaration.record_toValue interfaces)))
    (withDefault_ofFields rfl (Registry.record_toValue registry))

theorem ignoresUnknown : IgnoresUnknown Added check := by
  intro entries entries' h
  rw [check, check,
    h.withDefault "unions" rfl (ignores_listOf (UnionDeclaration.ignoresUnknown.record _)),
    h.withDefault "interfaces" rfl (ignores_listOf (InterfaceDeclaration.ignoresUnknown.record _)),
    h.withDefault "registry" rfl (Registry.ignoresUnknown.record _)]

end DeclarationFile

/-! ## Settings -/

namespace Settings

variable {entries : List (Value × Value)}

/-- Unknown fields added to settings. -/
def Added : List (Value × Value) → List (Value × Value) → Prop :=
  AddedToFields [("host", Eq), ("port", Eq), ("user", Eq), ("password", Eq), ("database", Eq)]

/-- A text that is accepted is accepted again, however it was given. -/
theorem nonEmptyText_again {value : Value} {s : String}
    (h : Check.nonEmptyText value = .valid s) : Check.nonEmptyText (.text s) = .valid s := by
  rw [Check.nonEmptyText] at h
  generalize Check.text value = checked at h
  cases checked with
  | invalid issues => cases h
  | valid t =>
    dsimp only at h
    split at h
    · cases h
    · rename_i hne
      cases h
      exact if_neg hne

/-- A port that is accepted is accepted again, however it was given. -/
theorem checkPort_again {value : Value} {n : Int} (h : checkPort value = .valid n) :
    checkPort (.int n) = .valid n :=
  checkPort_eq_valid_iff.mpr ⟨rfl, (checkPort_eq_valid_iff.mp h).2⟩

theorem checkPort_of_withDefault {n : Int}
    (h : Check.withDefault entries "port" defaultPort checkPort = .valid n) :
    checkPort (.int n) = .valid n := by
  obtain ⟨-, rfl⟩ | ⟨value, -, hvalue⟩ := Check.withDefault_eq_valid_iff.mp h
  · rfl
  · exact checkPort_again hvalue

theorem nonEmptyText_of_required {name s : String}
    (h : Check.required entries name Check.nonEmptyText = .valid s) :
    Check.nonEmptyText (.text s) = .valid s := by
  obtain ⟨value, -, hvalue⟩ := Check.required_eq_valid_iff.mp h
  exact nonEmptyText_again hvalue

/-- Settings have to be accepted settings to be accepted again: there are others, with an empty text
or with a number that is no port. -/
theorem record_toValue_of_check {settings : Settings} (h : check entries = .valid settings) :
    Check.record "ConnectionConfig" check settings.toValue = .valid settings := by
  obtain ⟨hhost, hport, huser, hpassword, hdatabase⟩ := check_eq_valid_iff_forall.mp h
  refine record_ofFields (check_eq_valid_iff_forall.mpr ⟨?_, ?_, ?_, ?_, ?_⟩) _
  · exact required_ofFields rfl (nonEmptyText_of_required hhost)
  · exact withDefault_ofFields rfl (checkPort_of_withDefault hport)
  · exact required_ofFields rfl (nonEmptyText_of_required huser)
  · exact required_ofFields rfl (nonEmptyText_of_required hpassword)
  · exact required_ofFields rfl (nonEmptyText_of_required hdatabase)

theorem ignoresUnknown : IgnoresUnknown Added check := by
  intro entries entries' h
  rw [check, check, h.required "host" rfl (ignores_eq _), h.withDefault "port" rfl (ignores_eq _),
    h.required "user" rfl (ignores_eq _), h.required "password" rfl (ignores_eq _),
    h.required "database" rfl (ignores_eq _)]

end Settings

/-! ## All kinds of records -/

/-- Building records of a kind is a projection: the map that is written from an accepted record is
accepted as this record, and unknown fields make no difference. -/
structure IsProjection {α : Type} (check : List (Value × Value) → Checked α) (toValue : α → Value)
    (added : List (Value × Value) → List (Value × Value) → Prop) : Prop where
  rebuilt : ∀ entries record, check entries = .valid record →
    ∃ written, toValue record = .map written ∧ check written = .valid record
  ignoresUnknown : IgnoresUnknown added check

/-- Only a map is accepted as a record. -/
theorem exists_written {α : Type} {name : String} {check : List (Value × Value) → Checked α}
    {value : Value} {record : α} (h : Check.record name check value = .valid record) :
    ∃ written, value = .map written ∧ check written = .valid record := by
  cases value with
  | map written => exact ⟨written, rfl, h⟩
  | _ => cases h

/-- **Building a record is a projection**, for every kind of records. -/
theorem records_project :
    IsProjection Column.check Column.toValue Column.Added ∧
    IsProjection Table.check Table.toValue Table.Added ∧
    IsProjection EnumType.check EnumType.toValue EnumType.Added ∧
    IsProjection DatabaseSchema.check DatabaseSchema.toValue DatabaseSchema.Added ∧
    IsProjection UnionDeclaration.check UnionDeclaration.toValue UnionDeclaration.Added ∧
    IsProjection Property.check Property.toValue Property.Added ∧
    IsProjection InterfaceDeclaration.check InterfaceDeclaration.toValue
      InterfaceDeclaration.Added ∧
    IsProjection RegistryEntry.check RegistryEntry.toValue RegistryEntry.Added ∧
    IsProjection Registry.check Registry.toValue Registry.Added ∧
    IsProjection DeclarationFile.check DeclarationFile.toValue DeclarationFile.Added ∧
    IsProjection Settings.check Settings.toValue Settings.Added := by
  refine ⟨?_, ?_, ?_, ?_, ?_, ?_, ?_, ?_, ?_, ?_, ?_⟩
  · exact ⟨fun _ x _ => exists_written (Column.record_toValue x), Column.ignoresUnknown⟩
  · exact ⟨fun _ x _ => exists_written (Table.record_toValue x), Table.ignoresUnknown⟩
  · exact ⟨fun _ x _ => exists_written (EnumType.record_toValue x), EnumType.ignoresUnknown⟩
  · exact ⟨fun _ x _ => exists_written (DatabaseSchema.record_toValue x),
      DatabaseSchema.ignoresUnknown⟩
  · exact ⟨fun _ x _ => exists_written (UnionDeclaration.record_toValue x),
      UnionDeclaration.ignoresUnknown⟩
  · exact ⟨fun _ x _ => exists_written (Property.record_toValue x), Property.ignoresUnknown⟩
  · exact ⟨fun _ x _ => exists_written (InterfaceDeclaration.record_toValue x),
      InterfaceDeclaration.ignoresUnknown⟩
  · exact ⟨fun _ x _ => exists_written (RegistryEntry.record_toValue x),
      RegistryEntry.ignoresUnknown⟩
  · exact ⟨fun _ x _ => exists_written (Registry.record_toValue x), Registry.ignoresUnknown⟩
  · exact ⟨fun _ x _ => exists_written (DeclarationFile.record_toValue x),
      DeclarationFile.ignoresUnknown⟩
  · exact ⟨fun _ _ h => exists_written (Settings.record_toValue_of_check h),
      Settings.ignoresUnknown⟩

/-- A column that is nullable by a word, which is given as the bytes of `TRUE`, with entries in
front of those that a column knows. -/
def wordyColumn (extra : List (Value × Value)) : Value :=
  .map (extra ++ [(.text "name", .text "size"), (.text "native_type", .text "int4"),
    (.text "is_nullable", .bytes [0x54, 0x52, 0x55, 0x45])])

/-- A schema with one table, which has that column, with entries in front of those that schemas and
tables know. -/
def wordySchema (extra : List (Value × Value)) : List (Value × Value) :=
  extra ++ [(.text "tables", .list [.map (extra ++ [(.text "name", .text "shoe"),
    (.text "schema_name", .text "shop"), (.text "columns", .list [wordyColumn extra])])])]

/-- What is known of an owner is known to no record. -/
theorem added_owner {known : List (String × Addition)} {entries entries' : List (Value × Value)}
    (hknown : known.lookup "owner" = none) (h : AddedToFields known entries entries') :
    AddedToFields known entries ((.text "owner", .int 1) :: entries') := by
  refine .added ?_ h
  rintro _ ⟨⟩
  exact hknown

theorem records_project_wordy :
    DatabaseSchema.check (wordySchema [(.text "owner", .int 1)])
        = .valid ⟨"public", [⟨"shoe", "shop", [⟨"size", "int4", true, none, none⟩]⟩], []⟩ ∧
      ∃ written, DatabaseSchema.toValue
          ⟨"public", [⟨"shoe", "shop", [⟨"size", "int4", true, none, none⟩]⟩], []⟩ = .map written ∧
        DatabaseSchema.check written
          = .valid ⟨"public", [⟨"shoe", "shop", [⟨"size", "int4", true, none, none⟩]⟩], []⟩ := by
  obtain ⟨-, -, -, hschema, -⟩ := records_project
  have hcheck : DatabaseSchema.check (wordySchema [])
      = .valid ⟨"public", [⟨"shoe", "shop", [⟨"size", "int4", true, none, none⟩]⟩], []⟩ := rfl
  have hcolumn : AddedToMap Column.Added (wordyColumn []) (wordyColumn [(.text "owner", .int 1)]) :=
    .map (added_owner rfl (.field rfl rfl (.field rfl rfl (.field rfl rfl .nil))))
  have hadded : DatabaseSchema.Added (wordySchema []) (wordySchema [(.text "owner", .int 1)]) :=
    added_owner rfl (.field rfl (.list (.cons (.map (added_owner rfl (.field rfl rfl
      (.field rfl rfl (.field rfl (.list (.cons hcolumn .nil)) .nil))))) .nil)) .nil)
  exact ⟨(hschema.ignoresUnknown _ _ hadded).trans hcheck, hschema.rebuilt _ _ hcheck⟩

end SchemaTypes

import SchemaTypes.Proofs.Fallible
import SchemaTypes.Proofs.Introspection.Points
import SchemaTypes.Proofs.Validation.Checks

/-!
# Which rows cannot be used

Where an introspection uses a row, two things can be wrong. The row has to have some columns, and
the first of them that it lacks is the error (`Point.needs`). If it lacks none, a record is made
of its values, and those of some of its fields have to be texts or, for fields that may be left out,
texts or null (`Point.HasTexts`). Bytes that spell a text are as good as the text. Nothing else is
wrong with a row: `fault_missing_iff` and `fault_invalid_iff` say of every point when it fails,
and with which kind of error.

The error tells about the row. A record that is refused has an issue, and every issue is with a
field of the record whose value is no text (`OfRow`).
-/

namespace SchemaTypes
namespace Introspection

/-! ## Rows that cannot be used -/

/-- An issue is with a value that is no text, at the field of a record that the value is for. -/
def WithNoText (input : List (String × Value)) (issue : Issue) : Prop :=
  ∃ name value, issue.location = [.field name] ∧ input.lookup name = some value ∧
    value.text? = none

/-- An error that comes from a row: the row has no such column, or a record does not accept values
that are no texts. -/
inductive OfRow (row : Row) : Error → Prop
  | missing (name : String) (h : row.lookup name = none) : OfRow row (.missingColumn name)
  | refused (error : RecordError) (hsome : error.issues ≠ [])
    (h : ∀ issue ∈ error.issues, WithNoText error.input issue) : OfRow row (.invalidRecord error)

/-- A check finds issues with nothing but values that are no texts. -/
def Blames {α : Type} (input : List (String × Value)) (checked : Checked α) : Prop :=
  ∀ issues, checked = .invalid issues →
    issues ≠ [] ∧ ∀ issue ∈ issues, WithNoText input issue

section Unusable

variable {α β : Type} {row : Row} {name : String} {input : List (String × Value)} {value : Value}
  {error : Error}

theorem column_eq_ok_iff : column row name = .ok value ↔ row.lookup name = some value := by
  rw [column]
  cases row.lookup name with
  | none => constructor <;> rintro ⟨⟩
  | some other =>
    exact ⟨fun h => congrArg _ (Except.ok.inj h), fun h => congrArg _ (Option.some.inj h)⟩

theorem ofRow_column (h : column row name = .error error) : OfRow row error := by
  rw [column] at h
  split at h
  · cases h
  · next hnone =>
    cases h
    exact .missing name hnone

theorem ofRow_nativeType (h : nativeType row = .error error) : OfRow row error := by
  rw [nativeType] at h
  split at h
  · exact ofRow_column h
  · cases h

/-! ### Checks of records -/

/-- What is not accepted as a text is none, and has one problem at its place. -/
theorem check_text_eq_invalid {issues : List Issue} (h : Check.text value = .invalid issues) :
    value.text? = none ∧ ∃ problem, issues = [⟨[], problem⟩] := by
  cases value with
  | text s => cases h
  | bytes content =>
    rw [Check.text] at h
    split at h
    · cases h
    · cases h
      exact ⟨rfl, _, rfl⟩
  | _ =>
    cases h
    exact ⟨rfl, _, rfl⟩

/-- What is accepted neither as a text nor as null is not accepted as a text. -/
theorem check_text_of_optional {issues : List Issue}
    (h : Check.optional Check.text value = .invalid issues) :
    Check.text value = .invalid issues := by
  have hmap : ∀ checked : Checked String, checked.map some = .invalid issues →
      checked = .invalid issues := by
    rintro (_ | _) ⟨⟩
    rfl
  cases value with
  | null => cases h
  | _ => exact hmap _ h

/-- A check of the value of a field, whose issues stand under that field. -/
theorem blames_under {checked : Checked α}
    (hchecked : ∀ issues, checked = .invalid issues → Check.text value = .invalid issues)
    (h : input.lookup name = some value) : Blames input (checked.under (.field name)) := by
  intro issues hissues
  cases checked with
  | valid a => cases hissues
  | invalid found =>
    cases hissues
    obtain ⟨hvalue, problem, rfl⟩ := check_text_eq_invalid (hchecked found rfl)
    refine ⟨List.cons_ne_nil _ _, fun issue hissue => ?_⟩
    cases List.mem_singleton.mp hissue
    exact ⟨name, value, rfl, h, hvalue⟩

theorem blames_textIn (h : input.lookup name = some value) : Blames input (textIn input name) := by
  rw [textIn, h]
  exact blames_under (fun _ hissues => hissues) h

theorem blames_textIn? (h : input.lookup name = some value) :
    Blames input (textIn? input name) := by
  rw [textIn?, h]
  exact blames_under (fun _ hissues => check_text_of_optional hissues) h

theorem blames_pure (a : α) : Blames input (pure a : Checked α) := nofun

theorem Blames.map {checked : Checked α} (h : Blames input checked) (f : α → β) :
    Blames input (f <$> checked) := by
  intro issues hissues
  cases checked with
  | valid a => cases hissues
  | invalid found =>
    cases hissues
    exact h issues rfl

theorem Blames.seq {checked : Checked (α → β)} {argument : Checked α} (h : Blames input checked)
    (h' : Blames input argument) : Blames input (checked <*> argument) := by
  intro issues hissues
  cases checked with
  | valid f =>
    cases argument with
    | valid a => cases hissues
    | invalid found =>
      cases hissues
      exact h' issues rfl
  | invalid found =>
    cases argument with
    | valid a =>
      cases hissues
      exact h issues rfl
    | invalid others =>
      cases hissues
      obtain ⟨hsome, hall⟩ := h found rfl
      obtain ⟨-, hothers⟩ := h' others rfl
      refine ⟨List.append_ne_nil_of_left_ne_nil hsome _, fun issue hissue => ?_⟩
      rcases List.mem_append.mp hissue with hissue | hissue
      · exact hall issue hissue
      · exact hothers issue hissue

/-- A record that is not accepted is an error of the row that it is made from. -/
theorem Blames.ofRow {record : String} {checked : Checked α} (hblames : Blames input checked)
    (h : accept record input checked = .error error) : OfRow row error := by
  cases checked with
  | valid a => cases h
  | invalid issues =>
    cases h
    obtain ⟨hsome, hall⟩ := hblames issues rfl
    exact .refused _ hsome hall

theorem ofRow_columnOfRow (h : columnOfRow row = .error error) : OfRow row error := by
  rw [columnOfRow] at h
  rcases bind_eq_error_iff.mp h with h | ⟨name, -, h⟩
  · exact ofRow_column h
  rcases bind_eq_error_iff.mp h with h | ⟨native, -, h⟩
  · exact ofRow_nativeType h
  rcases bind_eq_error_iff.mp h with h | ⟨nullable, -, h⟩
  · exact ofRow_column h
  · exact ((((((blames_textIn rfl).map _).seq (blames_textIn rfl)).seq (blames_pure _)).seq
      (blames_textIn? rfl)).seq (blames_textIn? rfl)).ofRow h

theorem ofRow_tableOf {schemaName : Value} {columns : List Column}
    (h : tableOf value schemaName columns = .error error) : OfRow row error :=
  ((((blames_textIn rfl).map _).seq (blames_textIn rfl)).seq (blames_pure _)).ofRow h

theorem ofRow_enumOfRow {schemaName : Value} (h : enumOfRow schemaName row = .error error) :
    OfRow row error := by
  rw [enumOfRow] at h
  rcases bind_eq_error_iff.mp h with h | ⟨name, -, h⟩
  · exact ofRow_column h
  · exact ((((blames_textIn rfl).map _).seq (blames_textIn rfl)).seq (blames_pure _)).ofRow h

/-- The name of a schema is refused if it is no text. -/
theorem ofRow_schemaOf {tables : List Table} {enums : List EnumType}
    (h : schemaOf value tables enums = .error error) : OfRow row error :=
  ((((blames_textIn rfl).map _).seq (blames_pure _)).seq (blames_pure _)).ofRow h

theorem eq_error_of_errorOf {α : Type} {result : Except Error α} (h : errorOf result = some error) :
    result = .error error := by
  cases result with
  | ok a => cases h
  | error other =>
    cases h
    rfl

/-- What is wrong at a point where nothing is asked comes from its row. -/
theorem ofRow_fault {executor : Executor} {schemaName : Value} {point : Point}
    (hquery : point.query? = none)
    (h : point.fault executor schemaName = some error) : OfRow point.row error := by
  cases point with
  | ask before query => cases hquery
  | name row => exact ofRow_column (eq_error_of_errorOf h)
  | column row => exact ofRow_columnOfRow (eq_error_of_errorOf h)
  | table row => exact ofRow_tableOf (eq_error_of_errorOf h)
  | enum row => exact ofRow_enumOfRow (eq_error_of_errorOf h)
  | schema => exact ofRow_schemaOf (eq_error_of_errorOf h)

end Unusable

/-! ## What is needed of a row -/

/-- A value that a record takes for a text: a text, or bytes that spell one. -/
inductive IsTextual : Value → Prop
  | text (s : String) : IsTextual (.text s)
  | bytes {content : List UInt8} {chars : List Char} :
    Text.Utf8.decode content = .ok chars → IsTextual (.bytes content)

/-- The first one of some columns that a row lacks. -/
def lacking? (row : Row) (names : List String) : Option String :=
  names.find? fun name => (row.lookup name).isNone

namespace Point

/-- The columns that a row has to have at a point, in the order in which they are looked for. A row
that is a column has to tell its type only if it has no name of its own for it. -/
def needs : Point → List String
  | .name _ => ["table_name"]
  | .column row =>
    "column_name" :: if (column? row "udt_name").isEmpty then ["data_type", "is_nullable"]
      else ["is_nullable"]
  | .enum _ => ["typname"]
  | .ask _ _ | .table _ | .schema => []

/-- The values that have to be texts at a point. -/
def texts (schemaName : Value) : Point → List Value
  | .column row => [column? row "column_name",
    orElse (column? row "udt_name") (column? row "data_type")]
  | .table row => [column? row "table_name", orElse (column? row "table_schema") schemaName]
  | .enum row => [column? row "typname", orElse (column? row "nspname") schemaName]
  | .schema => [schemaName]
  | .ask _ _ | .name _ => []

/-- The values that have to be texts or null at a point. -/
def optionalTexts : Point → List Value
  | .column row => [column? row "column_default", orElse (column? row "description") .null]
  | _ => []

/-- The values at a point are texts where they have to be. -/
structure HasTexts (schemaName : Value) (point : Point) : Prop where
  texts : ∀ value ∈ point.texts schemaName, IsTextual value
  optional : ∀ value ∈ point.optionalTexts, value = .null ∨ IsTextual value

end Point

section Needs

variable {α β : Type} {row : Row} {name : String} {input : List (String × Value)} {value : Value}

/-! ### Texts -/

theorem accepts_text_iff : (Check.text value).Accepts ↔ IsTextual value := by
  constructor
  · rintro ⟨s, h⟩
    cases value with
    | text t => exact .text t
    | bytes content =>
      rw [Check.text] at h
      split at h
      · next hdecode => exact .bytes hdecode
      · cases h
    | _ => cases h
  · intro h
    cases h with
    | text s => exact ⟨s, rfl⟩
    | bytes hdecode =>
      rename_i chars
      refine ⟨String.ofList chars, ?_⟩
      rw [Check.text, hdecode]

theorem accepts_optional_iff {check : Value → Checked α} :
    (Check.optional check value).Accepts ↔ value = .null ∨ (check value).Accepts := by
  cases value with
  | null => exact iff_of_true ⟨none, rfl⟩ (.inl rfl)
  | _ => exact Checked.accepts_map_iff.trans (or_iff_right nofun).symm

theorem accepts_textIn_iff (h : input.lookup name = some value) :
    (textIn input name).Accepts ↔ IsTextual value := by
  rw [textIn, h, Checked.accepts_under_iff]
  exact accepts_text_iff

theorem accepts_textIn?_iff (h : input.lookup name = some value) :
    (textIn? input name).Accepts ↔ value = .null ∨ IsTextual value := by
  rw [textIn?, h, Checked.accepts_under_iff]
  exact accepts_optional_iff.trans (or_congr_right accepts_text_iff)

/-- A record of two texts and something that is accepted anyway. -/
theorem accepts_twoTexts_iff {γ δ : Type} {make : String → String → γ → δ} {c : γ}
    {name' : String} {value' : Value} (h : input.lookup name = some value)
    (h' : input.lookup name' = some value') :
    (make <$> textIn input name <*> textIn input name' <*> pure c : Checked δ).Accepts ↔
      IsTextual value ∧ IsTextual value' := by
  rw [Checked.accepts_seq_iff, Checked.accepts_seq_iff, Checked.accepts_map_iff,
    accepts_textIn_iff h, accepts_textIn_iff h']
  exact and_iff_left (Checked.accepts_pure c)

/-! ### Columns that a row lacks -/

/-- What is wrong with a row that has to have some columns: the first that it lacks, or else
something that is found later. -/
def errorOfRow (row : Row) (names : List String) (later : Option Error) : Option Error :=
  (lacking? row names).elim later fun name => some (.missingColumn name)

/-- A column is looked for, and then others. -/
theorem errorOf_column_bind {next : Value → Except Error α} {names : List String}
    {later : Option Error}
    (h : errorOf (next (column? row name)) = errorOfRow row names later) :
    errorOf (column row name >>= next) = errorOfRow row (name :: names) later := by
  rw [errorOfRow, lacking?, List.find?_cons]
  unfold column? at h
  cases hlookup : row.lookup name with
  | none =>
    rw [column, hlookup]
    rfl
  | some value =>
    rw [hlookup] at h
    rw [column, hlookup]
    exact h

/-- An error is found at last, and it is the refusal of a record. -/
structure Refuses (later : Option Error) (hasTexts : Prop) : Prop where
  not_missing : ∀ name, later ≠ some (.missingColumn name)
  invalid_iff : (∃ error, later = some (.invalidRecord error)) ↔ ¬ hasTexts

theorem refuses_accept {record : String} {checked : Checked α} {hasTexts : Prop}
    (h : checked.Accepts ↔ hasTexts) :
    Refuses (errorOf (accept record input checked)) hasTexts := by
  rw [← h]
  cases checked with
  | valid a => exact ⟨nofun, iff_of_false nofun (not_not_intro ⟨a, rfl⟩)⟩
  | invalid issues => exact ⟨nofun, iff_of_true ⟨_, rfl⟩ nofun⟩

/-- Nothing is wrong with values of which nothing is asked. -/
theorem refuses_none {hasTexts : Prop} (h : hasTexts) : Refuses none hasTexts :=
  ⟨nofun, iff_of_false nofun (not_not_intro h)⟩

/-! ### Points -/

/-- The own name of a type, or the standard one, which is needed only in its place. -/
theorem errorOf_nativeType_bind {next : Value → Except Error α} {names : List String}
    {later : Option Error}
    (h : errorOf (next (orElse (column? row "udt_name") (column? row "data_type"))) =
      errorOfRow row names later) :
    errorOf (nativeType row >>= next) =
      errorOfRow row (if (column? row "udt_name").isEmpty then "data_type" :: names else names)
        later := by
  rw [orElse] at h
  unfold nativeType
  by_cases hown : (column? row "udt_name").isEmpty
  · rw [if_pos hown] at h ⊢
    rw [if_pos hown]
    exact errorOf_column_bind h
  · rw [if_neg hown] at h ⊢
    rw [if_neg hown]
    exact h

theorem hasTexts_iff {schemaName : Value} {point : Point} :
    point.HasTexts schemaName ↔ (∀ value ∈ point.texts schemaName, IsTextual value) ∧
      ∀ value ∈ point.optionalTexts, value = .null ∨ IsTextual value :=
  ⟨fun h => ⟨h.texts, h.optional⟩, fun h => ⟨h.1, h.2⟩⟩

variable {executor : Executor} {schemaName : Value} {point : Point}

theorem errorOf_column (row : Row) (name : String) :
    errorOf (column row name) = errorOfRow row [name] none := by
  rw [errorOfRow, lacking?, List.find?_singleton, column]
  cases row.lookup name <;> rfl

theorem errorOf_columnOfRow (row : Row) :
    ∃ later, errorOf (columnOfRow row) = errorOfRow row (Point.column row).needs later ∧
      Refuses later ((Point.column row).HasTexts schemaName) := by
  refine ⟨_, errorOf_column_bind (errorOf_nativeType_bind (errorOf_column_bind rfl)),
    refuses_accept ?_⟩
  rw [Checked.accepts_seq_iff, Checked.accepts_seq_iff, Checked.accepts_seq_iff,
    Checked.accepts_seq_iff, Checked.accepts_map_iff, accepts_textIn_iff rfl,
    accepts_textIn_iff rfl, accepts_textIn?_iff rfl, accepts_textIn?_iff rfl, hasTexts_iff]
  simp [Point.texts, Point.optionalTexts, Checked.accepts_pure, and_assoc]

/-- **What is wrong at a point** where nothing is asked is that its row lacks a column, or else that
a record refuses a value. -/
theorem exists_errorOfRow (executor : Executor) (schemaName : Value) (point : Point)
    (hquery : point.query? = none) :
    ∃ later, point.fault executor schemaName = errorOfRow point.row point.needs later ∧
      Refuses later (point.HasTexts schemaName) := by
  cases point with
  | ask before query => cases hquery
  | name row => exact ⟨none, errorOf_column row "table_name", refuses_none ⟨nofun, nofun⟩⟩
  | column row => exact errorOf_columnOfRow row
  | table row =>
    refine ⟨_, rfl, refuses_accept ((accepts_twoTexts_iff rfl rfl).trans ?_)⟩
    simp [hasTexts_iff, Point.texts, Point.optionalTexts]
  | enum row =>
    refine ⟨_, errorOf_column_bind rfl, refuses_accept ((accepts_twoTexts_iff rfl rfl).trans ?_)⟩
    simp [hasTexts_iff, Point.texts, Point.optionalTexts]
  | schema =>
    refine ⟨_, rfl, refuses_accept ?_⟩
    rw [Checked.accepts_seq_iff, Checked.accepts_seq_iff, Checked.accepts_map_iff,
      accepts_textIn_iff rfl, hasTexts_iff]
    simp [Point.texts, Point.optionalTexts, Checked.accepts_pure]

/-- Where something else is wrong than a query, nothing is asked. -/
theorem query?_eq_none_of_fault {error : Error}
    (h : point.fault executor schemaName = some error) (herror : ∀ other, error ≠ .query other) :
    point.query? = none := by
  cases point with
  | ask before query =>
    have hfailed := eq_error_of_errorOf h
    cases hanswer : executor before query with
    | ok rows =>
      rw [hanswer] at hfailed
      cases hfailed
    | error failure =>
      rw [hanswer] at hfailed
      cases hfailed
      exact absurd rfl (herror _)
  | _ => rfl

/-- The columns that some row has to have. -/
theorem Point.needs_subset (point : Point) :
    point.needs ⊆ ["table_name", "column_name", "data_type", "is_nullable", "typname"] := by
  cases point with
  | column row =>
    show ("column_name" :: if _ then _ else _) ⊆ _
    split
    · decide
    · decide
  | _ => simp [Point.needs]

/-- A point fails for a column if its row lacks this one, and none that is needed before it. -/
theorem fault_missing_iff (hquery : point.query? = none) {name : String} :
    point.fault executor schemaName = some (.missingColumn name) ↔
      lacking? point.row point.needs = some name := by
  obtain ⟨later, hfault, hlater⟩ := exists_errorOfRow executor schemaName point hquery
  rw [hfault, errorOfRow]
  cases lacking? point.row point.needs with
  | none => exact iff_of_false (hlater.not_missing name) nofun
  | some other => simp

/-- A point fails for a record if its row lacks nothing and not all values are texts that have to be
some. -/
theorem fault_invalid_iff (hquery : point.query? = none) :
    (∃ error, point.fault executor schemaName = some (.invalidRecord error)) ↔
      lacking? point.row point.needs = none ∧ ¬ point.HasTexts schemaName := by
  obtain ⟨later, hfault, hlater⟩ := exists_errorOfRow executor schemaName point hquery
  rw [hfault, errorOfRow]
  cases lacking? point.row point.needs with
  | none => exact hlater.invalid_iff.trans (and_iff_right rfl).symm
  | some other => simp

end Needs

end Introspection
end SchemaTypes

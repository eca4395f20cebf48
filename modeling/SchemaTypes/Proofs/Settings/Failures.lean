import SchemaTypes.Proofs.Settings.Choice
import SchemaTypes.Proofs.Text.Chunks
import SchemaTypes.Proofs.Yaml.Raised.Objects

/-!
# How loading settings fails

Loading settings promises to fail in four ways: there is no such file, the file cannot be read, it
holds no document, or a document that is no map (`LoadError.Promised`). It does not keep that
promise. Whether the user's own file exists may be unknown (`Undecided`), and the content of a file
may spoil the reading: its bytes may be no text, it may be nested too deep, and a scalar in it may
have no value (`Spoils`).

There is nothing else. Loading keeps the promise if and only if the place of the user's file is
known where it matters and the content of the file that is opened spoils nothing
(`load_promised_iff`). That the bytes of a long file are no text shows only if the reading gets
there; for a file that is read in one chunk it always does.
-/

namespace SchemaTypes
namespace Settings

/-- The errors that loading promises. -/
inductive LoadError.Promised : LoadError → Prop
  | notFound (path : String) : Promised (.notFound path)
  | unreadable (path : String) (fault : FileFault) : Promised (.unreadable path fault)
  | malformed (path report : String) : Promised (.malformed path report)
  | notAMap (path : String) : Promised (.notAMap path)

/-- Loading ends with a map or with a promised error. -/
def EndsAsPromised (result : Except LoadError (List (Value × Value))) : Prop :=
  ∀ error, result = .error error → error.Promised

/-- Content that can be read unless it is malformed. -/
def Presentable (bytes : List UInt8) : Prop :=
  ∀ fault, Yaml.readBytes bytes = .error fault → fault = .malformed

/-- How content may spoil the reading of it: the reading ends where the bytes are no text, where
collections stand too deep inside each other, or at a scalar of a document that has no value. -/
inductive Spoils (bytes : List UInt8) : Yaml.Fault → Prop
  | encoding {fault : Text.Utf8.Fault} : Yaml.readBytes bytes = .error (.encoding fault) →
    ¬ Text.Utf8.IsText bytes → (Text.Utf8.read bytes).fault = some fault →
      Spoils bytes (.encoding fault)
  | tooDeep : Yaml.readBytes bytes = .error .tooDeep → Spoils bytes .tooDeep
  | scalar {fault : Yaml.ScalarFault} : Yaml.readBytes bytes = .error (.scalar fault) →
    Yaml.Raised none (.scalar fault) → Spoils bytes (.scalar fault)

theorem LoadError.promised_ofFault_iff {path report : String} {fault : Yaml.Fault} :
    (LoadError.ofFault path report fault).Promised ↔ fault = .malformed := by
  constructor
  · cases fault with
    | malformed => exact fun _ => rfl
    | _ => rintro ⟨⟩
  · rintro rfl
    exact .malformed path report

/-! ## Content -/

section Content

variable {bytes : List UInt8} {fault : Yaml.Fault}

/-- A file ends early because of a strange character, or because its bytes are no text. -/
theorem fault_ofReading {reading : Text.Utf8.Reading}
    (h : (Yaml.Source.ofReading reading).fault = some fault) :
    fault = .malformed ∨ ∃ broken, fault = .encoding broken ∧ reading.fault = some broken := by
  unfold Yaml.Source.ofReading at h
  dsimp only at h
  split at h
  · cases h
  · cases h
    exact .inl rfl
  · rename_i broken hfault _
    cases h
    exact .inr ⟨broken, rfl, hfault⟩
  · rename_i broken _ hfault _
    split at h
    · cases h
      exact .inl rfl
    · cases h
      exact .inr ⟨broken, rfl, hfault⟩

/-- **A fault of a document is that it is malformed, or it spoils the reading.** -/
theorem malformed_or_spoils (h : Yaml.readBytes bytes = .error fault) :
    fault = .malformed ∨ Spoils bytes fault := by
  cases Yaml.raised_of_read h with
  | outer hfault =>
    rcases fault_ofReading hfault with hfault | ⟨broken, rfl, hbroken⟩
    · exact .inl hfault
    · refine .inr (.encoding h (fun htext => ?_) hbroken)
      cases (Text.Utf8.fault_read_eq_none_iff.mpr htext).symm.trans hbroken
  | malformed => exact .inl rfl
  | tooDeep => exact .inr (.tooDeep h)
  | version hdigits => exact .inr (.scalar h (.version hdigits))
  | escape hn => exact .inr (.scalar h (.escape hn))
  | value hvalue =>
    rcases Yaml.malformed_or_scalar_of_scalarValue hvalue with hfault | ⟨own, rfl⟩
    · exact .inl hfault
    · exact .inr (.scalar h (.value hvalue))
  | collectionAsDate => exact .inr (.scalar h .collectionAsDate)

/-- A source that is at fault from its beginning has no document in front of the fault. -/
theorem read_of_spoilt (fault : Yaml.Fault) : Yaml.read ⟨[], some fault⟩ = .error fault :=
  rfl

theorem loadStart_eq_zero {place : Nat} (h : place < Text.Utf8.chunkSize) :
    Yaml.Source.loadStart place = 0 :=
  if_pos h

/-- **A short file whose bytes are no text** is read up to no document. -/
theorem readBytes_of_short (hshort : bytes.length ≤ Text.Utf8.chunkSize)
    (h : ¬ Text.Utf8.IsText bytes) :
    ∃ broken, Yaml.readBytes bytes = .error (.encoding broken) := by
  rw [← Text.Utf8.fault_read_eq_none_iff] at h
  obtain ⟨broken, hbroken⟩ := Option.ne_none_iff_exists'.mp h
  have hlength := Text.Utf8.length_chars_read_lt hshort hbroken
  unfold Yaml.readBytes
  generalize Text.Utf8.read bytes = reading at hbroken hlength
  refine ⟨broken, ?_⟩
  have hsource : Yaml.Source.ofReading reading = ⟨[], some (.encoding broken)⟩ := by
    unfold Yaml.Source.ofReading
    dsimp only
    rw [hbroken, loadStart_eq_zero hlength]
    split
    · rename_i hnone _
      cases hnone
    · rename_i hnone _
      cases hnone
    · rename_i hfault _
      cases hfault
      rfl
    · rename_i hfault _
      cases hfault
      exact if_neg (Nat.not_lt_zero _)
  rw [hsource]
  exact read_of_spoilt _

/-- **An error of a file is promised, or its content spoils the reading.** -/
theorem promised_or_spoils_of_broken {diagnosis : Diagnosis} {files : FileSystem} {path : String}
    {error : LoadError} (h : Broken diagnosis files path error) :
    error.Promised ∨ ∃ bytes fault, HoldsBytes files path bytes ∧ Spoils bytes fault ∧
      error = .ofFault path (diagnosis path bytes) fault := by
  -- a fault that spoils the reading is not that the content is malformed
  have hspoils : ∀ bytes fault, Yaml.readBytes bytes = .error fault → fault ≠ .malformed →
      Spoils bytes fault := fun _ _ hdocument hfault =>
    (malformed_or_spoils hdocument).resolve_left hfault
  cases h with
  | missing => exact .inl (.notFound path)
  | unreadable => exact .inl (.unreadable path _)
  | malformed => exact .inl (.malformed path _)
  | notAMap => exact .inl (.notAMap path)
  | encoding hbytes hdocument =>
    exact .inr ⟨_, _, hbytes, hspoils _ _ hdocument (by rintro ⟨⟩), rfl⟩
  | tooDeep hbytes hdocument =>
    exact .inr ⟨_, _, hbytes, hspoils _ _ hdocument (by rintro ⟨⟩), rfl⟩
  | scalar hbytes hdocument =>
    exact .inr ⟨_, _, hbytes, hspoils _ _ hdocument (by rintro ⟨⟩), rfl⟩

end Content

/-! ## Loading -/

section Load

variable {diagnosis : Diagnosis} {files : FileSystem} {environment : Environment}
  {requested : Option String} {path : String} {bytes : List UInt8}

/-- Loading opens a file that holds the given bytes. -/
structure Opens (files : FileSystem) (environment : Environment) (requested : Option String)
    (path : String) (bytes : List UInt8) : Prop extends HoldsBytes files path bytes where
  chosen : Chosen files environment requested (.requested path) ∨
    Chosen files environment requested (.userFile path)

theorem Opens.result_load (h : Opens files environment requested path bytes) :
    (load diagnosis files environment requested).result = ofFile diagnosis files path := by
  rcases h.chosen with hchosen | hchosen
  · exact result_load_of_chosen hchosen
  · exact result_load_of_chosen hchosen

/-- An error that is not promised says that the user's own file cannot be looked for, or what is
wrong with the content of the file that is opened. -/
theorem promised_or_of_load {error : LoadError}
    (h : (load diagnosis files environment requested).result = .error error) :
    error.Promised ∨ Undecided files environment requested error ∨
      ∃ path bytes fault, Opens files environment requested path bytes ∧ Spoils bytes fault ∧
        error = .ofFault path (diagnosis path bytes) fault := by
  rcases chosen_or_undecided files environment requested with ⟨source, hchosen⟩ | ⟨other, hother⟩
  · rw [result_load_of_chosen hchosen] at h
    -- only a file can be broken, so the source is one
    have hfile : ∀ path, ofFile diagnosis files path = .error error →
        (Chosen files environment requested (.requested path) ∨
          Chosen files environment requested (.userFile path)) →
        error.Promised ∨ ∃ bytes fault, Opens files environment requested path bytes ∧
          Spoils bytes fault ∧ error = .ofFault path (diagnosis path bytes) fault := by
      intro path hfile hpath
      rcases promised_or_spoils_of_broken (broken_of_ofFile hfile) with hpromised | hspoils
      · exact .inl hpromised
      · obtain ⟨bytes, fault, hbytes, hspoils, heq⟩ := hspoils
        exact .inr ⟨bytes, fault, ⟨hbytes, hpath⟩, hspoils, heq⟩
    cases source with
    | requested path => exact (hfile path h (.inl hchosen)).imp_right fun h => .inr ⟨path, h⟩
    | userFile path => exact (hfile path h (.inr hchosen)).imp_right fun h => .inr ⟨path, h⟩
    | environment => cases h
    | defaults => cases h
  · rw [result_load_of_undecided hother] at h
    cases h
    exact .inr (.inl hother)

theorem Undecided.not_promised {error : LoadError}
    (h : Undecided files environment requested error) : ¬ error.Promised := by
  cases h <;> exact nofun

/-- Content that is opened and cannot be read to a promised end breaks the promise. -/
theorem Opens.presentable (h : Opens files environment requested path bytes)
    (hends : EndsAsPromised (load diagnosis files environment requested).result) :
    Presentable bytes := by
  intro fault hfault
  have hresult : (load diagnosis files environment requested).result =
      .error (.ofFault path (diagnosis path bytes) fault) := by
    rw [h.result_load, ofFile_of_holdsBytes h.toHoldsBytes, hfault]
  exact LoadError.promised_ofFault_iff.mp (hends _ hresult)

/-- Content that spoils the reading cannot be presented. -/
theorem Spoils.not_presentable {fault : Yaml.Fault} (h : Spoils bytes fault) :
    ¬ Presentable bytes := by
  intro hpresentable
  cases h with
  | encoding hdocument => cases hpresentable _ hdocument
  | tooDeep hdocument => cases hpresentable _ hdocument
  | scalar hdocument => cases hpresentable _ hdocument

end Load

/-- **Loading fails as promised** if and only if the user's own file can be looked for where that
matters, and the content of the file that is opened can be read unless it is malformed. Any other
error says that the user's file cannot be looked for, or what spoils the content. Of a file that is
read in one chunk, bytes that are no text are always such an error, and of a longer file at most. -/
theorem load_promised_iff (diagnosis : Diagnosis) (files : FileSystem) (environment : Environment)
    (requested : Option String) :
    (EndsAsPromised (load diagnosis files environment requested).result ↔
      (∀ error, ¬ Undecided files environment requested error) ∧
        ∀ path bytes, Opens files environment requested path bytes → Presentable bytes) ∧
    (∀ error, (load diagnosis files environment requested).result = .error error →
      error.Promised ∨ Undecided files environment requested error ∨
        ∃ path bytes fault, Opens files environment requested path bytes ∧ Spoils bytes fault ∧
          error = .ofFault path (diagnosis path bytes) fault) ∧
    ∀ path bytes, Opens files environment requested path bytes →
      bytes.length ≤ Text.Utf8.chunkSize → ¬ Text.Utf8.IsText bytes →
        ∃ fault, (load diagnosis files environment requested).result =
          .error (.encoding fault) := by
  refine ⟨⟨fun hends => ⟨fun error herror => ?_, fun path bytes hopens => hopens.presentable hends⟩,
    fun ⟨hdecided, hpresentable⟩ error herror => ?_⟩,
    fun error herror => promised_or_of_load herror, fun path bytes hopens hshort htext => ?_⟩
  · exact herror.not_promised (hends error (result_load_of_undecided herror))
  · rcases promised_or_of_load herror with hpromised | hundecided | hspoils
    · exact hpromised
    · exact absurd hundecided (hdecided error)
    · obtain ⟨path, bytes, fault, hopens, hspoils, -⟩ := hspoils
      exact absurd (hpresentable path bytes hopens) hspoils.not_presentable
  · obtain ⟨broken, hbroken⟩ := readBytes_of_short hshort htext
    refine ⟨broken, ?_⟩
    rw [hopens.result_load, ofFile_of_holdsBytes hopens.toHoldsBytes, hbroken]
    rfl

/-- A file of one byte that begins no sequence. -/
def oneByte : FileSystem where
  entries := [(["work"], .directory), (["work", "c.yaml"], .file [0xFF])]
  current := ["work"]

theorem opens_oneByte : Opens oneByte ⟨[], "/home"⟩ (some "c.yaml") "c.yaml" [0xFF] where
  chosen := .inl (.requested rfl (by simp))
  has := by decide
  read := by decide

/-- Asked for a file with a byte that begins no sequence, loading fails with an error about this
byte. -/
theorem load_oneByte_not_promised :
    (load (fun _ _ => "") oneByte ⟨[], "/home"⟩ (some "c.yaml")).result =
        .error (.encoding ⟨[0xFF], 0, .invalidStart⟩) ∧
      ¬ EndsAsPromised (load (fun _ _ => "") oneByte ⟨[], "/home"⟩ (some "c.yaml")).result := by
  have h : (load (fun _ _ => "") oneByte ⟨[], "/home"⟩ (some "c.yaml")).result =
      .error (.encoding ⟨[0xFF], 0, .invalidStart⟩) := by
    rw [opens_oneByte.result_load, ofFile_of_holdsBytes opens_oneByte.toHoldsBytes]
    rfl
  refine ⟨h, fun hends => ?_⟩
  cases hends _ h

end Settings
end SchemaTypes

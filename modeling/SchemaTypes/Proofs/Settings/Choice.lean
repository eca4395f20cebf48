import Mathlib.Data.List.Nodup
import SchemaTypes.Proofs.Value.Entry
import SchemaTypes.Settings.Source

/-!
# The source of the settings

Four sources can give the map of settings, and one of them is chosen: `Chosen` says which, from
what is asked for, what files there are and what the variables hold. At most one source is chosen
(`Chosen.unique`). None is if it cannot be told whether the user's own file exists (`Undecided`),
and otherwise there is one (`chosen_or_undecided`).

What the chosen source gives is what is loaded, be it a map or an error (`result_load_of_chosen`).
A file gives a map if it is there, can be read, and its content is a document that is this map
(`HoldsMap`); in all other cases it is broken, and `Broken` says which error that is. Variables and
defaults always give a map (`IsBase`). What a source gives depends on this source alone: for a file
on whether it is there and what is read in it, for the variables on the values of those that are not
empty, and for the defaults on nothing (`Agree`).

Single entries can be written over a map. `Overlaid` says what the map holds then: what was
written, and everything else as before.
-/

namespace SchemaTypes

namespace Settings

/-- A map that holds what is written over another one, and everything else as it was there. -/
structure Overlaid (base : List (Value × Value)) (written : String → Value → Prop)
    (entries : List (Value × Value)) : Prop where
  holds : ∀ name value, written name value → Value.field? entries name = some value
  kept : ∀ name, (∀ value, ¬ written name value) →
    Value.field? entries name = Value.field? base name
  others : ∀ entry, (∀ name value, written name value → entry.1 ≠ .text name) →
    (entry ∈ entries ↔ entry ∈ base)

/-- Values under different names that are written over a map are all there. -/
theorem overlaid_overlay {values : List (String × Value)} (h : (values.map (·.1)).Nodup)
    (base : List (Value × Value)) :
    Overlaid base (fun name value => (name, value) ∈ values) (overlay base values) := by
  induction values generalizing base with
  | nil => exact ⟨nofun, fun _ _ => rfl, fun _ _ => Iff.rfl⟩
  | cons field values ih =>
    obtain ⟨first, new⟩ := field
    rw [List.map_cons, List.nodup_cons, List.mem_map] at h
    have hrest := ih h.2 (Value.insertEntry (.text first) new base)
    refine ⟨fun name value hfield => ?_, fun name hname => ?_, fun entry hentry => ?_⟩
    · rcases List.mem_cons.mp hfield with heq | hfield
      · cases heq
        have hkept := hrest.kept first fun value hvalue => h.1 ⟨_, hvalue, rfl⟩
        rwa [Value.field?_insertEntry, if_pos rfl] at hkept
      · exact hrest.holds name value hfield
    · have hne : first ≠ name := by
        rintro rfl
        exact hname new List.mem_cons_self
      have hkept := hrest.kept name fun value hvalue => hname value (List.mem_cons_of_mem _ hvalue)
      rwa [Value.field?_insertEntry, if_neg hne] at hkept
    · have hothers := hrest.others entry fun name value hfield =>
        hentry name value (List.mem_cons_of_mem _ hfield)
      exact hothers.trans (Value.mem_insertEntry_iff (hentry first new List.mem_cons_self))

/-- Maps with the same fields have the same fields after the same was written over them. -/
theorem Overlaid.field?_eq {base others entries entries' : List (Value × Value)}
    {written : String → Value → Prop} (h : Overlaid base written entries)
    (h' : Overlaid others written entries')
    (hbase : ∀ name, Value.field? others name = Value.field? base name) (name : String) :
    Value.field? entries' name = Value.field? entries name := by
  by_cases hname : ∃ value, written name value
  · obtain ⟨value, hvalue⟩ := hname
    rw [h.holds name value hvalue, h'.holds name value hvalue]
  · have hnone := not_exists.mp hname
    rw [h.kept name hnone, h'.kept name hnone, hbase]

/-- Names under which some values are kept are different if all names are. -/
theorem nodup_map_fst_filterMap {α β : Type} {key : α → String} {value? : α → Option β}
    {as : List α} (h : (as.map key).Nodup) :
    ((as.filterMap fun a => (value? a).map (key a, ·)).map (·.1)).Nodup := by
  refine h.sublist ?_
  induction as with
  | nil => exact List.Sublist.refl _
  | cons a as ih =>
    rw [List.map_cons, List.nodup_cons] at h
    cases hvalue : value? a with
    | none => simpa [hvalue] using (ih h.2).cons (key a)
    | some value => simpa [hvalue] using (ih h.2).cons_cons (key a)

/-! ## Sources -/

/-- Where the map of settings comes from. -/
inductive Source where
  /-- A file that is asked for. -/
  | requested (path : String)
  /-- The user's own file. -/
  | userFile (path : String)
  | environment
  | defaults
deriving Repr, DecidableEq

/-- The value of a variable, if it is there and not empty. -/
def set? (bindings : List (String × String)) (name : String) : Option String :=
  (bindings.lookup name).filter (!·.isEmpty)

/-- No variable for settings is there and not empty. -/
def NothingSet (bindings : List (String × String)) : Prop :=
  ∀ entry ∈ variableNames, set? bindings entry.1 = none

section Sources

variable (diagnosis : Diagnosis) (files : FileSystem) (environment : Environment)
  (requested : Option String)

/-- No file is asked for by a name that is not empty. -/
def Unrequested : Prop :=
  ∀ path ∈ requested, path = ""

/-- Which source is chosen. -/
inductive Chosen : Source → Prop
  | requested {path : String} : path ∈ requested → path ≠ "" → Chosen (.requested path)
  | userFile {path : Path} : Unrequested requested → userFile? environment = some path →
    files.seek path.text = .ok true → Chosen (.userFile path.text)
  | environment {path : Path} : Unrequested requested → userFile? environment = some path →
    files.seek path.text = .ok false → ¬ NothingSet environment.bindings → Chosen .environment
  | defaults {path : Path} : Unrequested requested → userFile? environment = some path →
    files.seek path.text = .ok false → NothingSet environment.bindings → Chosen .defaults

/-- Nobody can tell whether the user's own file exists, and it would be the next to be looked at. -/
inductive Undecided : LoadError → Prop
  | noHome : Unrequested requested → userFile? environment = none → Undecided .noHome
  | unknown {path : Path} {fault : FileFault} : Unrequested requested →
    userFile? environment = some path → files.seek path.text = .error fault →
      Undecided (.unknown fault)

/-- The source that is chosen, or why nobody can tell which it is. -/
def choice : Except LoadError Source :=
  match requested.filter (!·.isEmpty) with
  | some path => .ok (.requested path)
  | none =>
    match userFile? environment with
    | none => .error .noHome
    | some path =>
      match files.seek path.text with
      | .error fault => .error (.unknown fault)
      | .ok true => .ok (.userFile path.text)
      | .ok false =>
        .ok (if ofVariables environment.bindings = [] then .defaults else .environment)

/-- What is set, written over the defaults. -/
def environmentMap (bindings : List (String × String)) : List (Value × Value) :=
  overlay defaults ((ofVariables bindings).map fun entry => (entry.1, .text entry.2))

/-- What a source gives. -/
def Source.map : Source → Except LoadError (List (Value × Value))
  | .requested path => ofFile diagnosis files path
  | .userFile path => ofFile diagnosis files path
  | .environment => .ok (environmentMap environment.bindings)
  | .defaults => .ok Settings.defaults

end Sources

section Chosen

variable {diagnosis : Diagnosis} {files : FileSystem} {environment : Environment}
  {requested : Option String}

theorem unrequested_iff : Unrequested requested ↔ requested.filter (!·.isEmpty) = none := by
  cases requested <;> simp [Unrequested]

/-- The variables set what is not empty. -/
theorem ofVariables_eq (bindings : List (String × String)) :
    ofVariables bindings =
      variableNames.filterMap fun entry => (set? bindings entry.1).map (entry.2, ·) := by
  refine List.filterMap_congr fun entry _ => ?_
  rw [set?]
  cases bindings.lookup entry.1 with
  | none => rfl
  | some value => by_cases h : value.isEmpty <;> simp [h, Option.filter]

theorem ofVariables_eq_nil_iff {bindings : List (String × String)} :
    ofVariables bindings = [] ↔ NothingSet bindings := by
  rw [ofVariables_eq, List.filterMap_eq_nil_iff, NothingSet]
  simp only [Option.map_eq_none_iff]

theorem result_loadFile (path : String) :
    (loadFile diagnosis files path).result = ofFile diagnosis files path := by
  rw [loadFile]
  cases ofFile diagnosis files path <;> rfl

theorem result_loadVariables (bindings : List (String × String)) :
    (loadVariables bindings).result =
      .ok (if ofVariables bindings = [] then defaults else environmentMap bindings) := by
  rw [loadVariables, environmentMap]
  cases ofVariables bindings <;> rfl

/-- Loading is choosing a source and taking what it gives. -/
theorem result_load (diagnosis : Diagnosis) (files : FileSystem) (environment : Environment)
    (requested : Option String) :
    (load diagnosis files environment requested).result =
      choice files environment requested >>= Source.map diagnosis files environment := by
  rw [load, choice]
  cases requested.filter (!·.isEmpty) with
  | some path => exact result_loadFile path
  | none =>
    dsimp only
    rw [loadUnasked]
    cases userFile? environment with
    | none => rfl
    | some path =>
      dsimp only
      cases files.seek path.text with
      | error fault => rfl
      | ok isThere =>
        cases isThere with
        | true => exact result_loadFile path.text
        | false =>
          dsimp only
          rw [result_loadVariables]
          by_cases hnone : ofVariables environment.bindings = []
          · rw [if_pos hnone, if_pos hnone]
            rfl
          · rw [if_neg hnone, if_neg hnone]
            rfl

/-- If no file is asked for, then what is known of the user's own file decides, and behind it the
variables. -/
theorem choice_of_seek {path : Path} {isThere : Bool} (hnone : Unrequested requested)
    (hpath : userFile? environment = some path) (hseek : files.seek path.text = .ok isThere) :
    choice files environment requested =
      .ok (if isThere then .userFile path.text
        else if ofVariables environment.bindings = [] then .defaults else .environment) := by
  rw [choice, unrequested_iff.mp hnone]
  dsimp only
  rw [hpath]
  dsimp only
  rw [hseek]
  cases isThere <;> rfl

/-- What tells the ways of choosing apart: whether a file is asked for, then whether the user's own
file is there, and then whether a variable is set. -/
theorem choice_of_chosen {source : Source} (h : Chosen files environment requested source) :
    choice files environment requested = .ok source := by
  cases h with
  | requested hpath hne =>
    rename_i path
    have hfilter : requested.filter (!·.isEmpty) = some path := by
      rw [Option.mem_def] at hpath
      simp [hpath, hne]
    rw [choice, hfilter]
  | userFile hnone hpath hseek =>
    rw [choice_of_seek hnone hpath hseek, if_pos rfl]
  | environment hnone hpath hseek hset =>
    rw [choice_of_seek hnone hpath hseek, if_neg Bool.false_ne_true,
      if_neg fun hnil => hset (ofVariables_eq_nil_iff.mp hnil)]
  | defaults hnone hpath hseek hunset =>
    rw [choice_of_seek hnone hpath hseek, if_neg Bool.false_ne_true,
      if_pos (ofVariables_eq_nil_iff.mpr hunset)]

theorem choice_of_undecided {error : LoadError} (h : Undecided files environment requested error) :
    choice files environment requested = .error error := by
  cases h with
  | noHome hnone hhome =>
    rw [choice, unrequested_iff.mp hnone]
    dsimp only
    rw [hhome]
  | unknown hnone hpath hseek =>
    rw [choice, unrequested_iff.mp hnone]
    dsimp only
    rw [hpath]
    dsimp only
    rw [hseek]

/-- **What is loaded is what the chosen source gives**, be it a map or an error. -/
theorem result_load_of_chosen {source : Source} (h : Chosen files environment requested source) :
    (load diagnosis files environment requested).result =
      source.map diagnosis files environment := by
  rw [result_load, choice_of_chosen h]
  rfl

theorem result_load_of_undecided {error : LoadError}
    (h : Undecided files environment requested error) :
    (load diagnosis files environment requested).result = .error error := by
  rw [result_load, choice_of_undecided h]
  rfl

/-- A source is chosen unless it cannot be told which. -/
theorem chosen_or_undecided (files : FileSystem) (environment : Environment)
    (requested : Option String) :
    (∃ source, Chosen files environment requested source) ∨
      ∃ error, Undecided files environment requested error := by
  cases hrequested : requested.filter (!·.isEmpty) with
  | some path =>
    rw [Option.filter_eq_some_iff] at hrequested
    exact .inl ⟨_, .requested hrequested.1 (by simpa using hrequested.2)⟩
  | none =>
    have hnone := unrequested_iff.mpr hrequested
    cases hpath : userFile? environment with
    | none => exact .inr ⟨_, .noHome hnone hpath⟩
    | some path =>
      cases hseek : files.seek path.text with
      | error fault => exact .inr ⟨_, .unknown hnone hpath hseek⟩
      | ok isThere =>
        cases isThere with
        | true => exact .inl ⟨_, .userFile hnone hpath hseek⟩
        | false =>
          by_cases hunset : NothingSet environment.bindings
          · exact .inl ⟨_, .defaults hnone hpath hseek hunset⟩
          · exact .inl ⟨_, .environment hnone hpath hseek hunset⟩

/-- No two sources are chosen. -/
theorem Chosen.unique {source other : Source} (h : Chosen files environment requested source)
    (h' : Chosen files environment requested other) : other = source :=
  Except.ok.inj ((choice_of_chosen h').symm.trans (choice_of_chosen h))

/-- No source is chosen if it cannot be told which. -/
theorem Undecided.not_chosen {source : Source} {error : LoadError}
    (h : Undecided files environment requested error) :
    ¬ Chosen files environment requested source := by
  intro h'
  cases (choice_of_undecided h).symm.trans (choice_of_chosen h')

end Chosen

/-! ## Files for settings -/

section Files

variable (diagnosis : Diagnosis) (files : FileSystem) (path : String)

/-- A file is there and has the given content. -/
structure HoldsBytes (bytes : List UInt8) : Prop where
  has : files.has path = true
  read : files.read path = .ok bytes

/-- The content of a file is a document that is the given map. -/
def HoldsMap (base : List (Value × Value)) : Prop :=
  ∃ bytes, HoldsBytes files path bytes ∧ Yaml.readBytes bytes = .ok (.map base)

/-- A file gives no map. It is missing or cannot be read, its content is no document or spoils the
reading, or the document in it is no map. -/
inductive Broken : LoadError → Prop
  | missing : files.has path = false → Broken (.notFound path)
  | unreadable {fault : FileFault} : files.has path = true → files.read path = .error fault →
    Broken (.unreadable path fault)
  | malformed {bytes : List UInt8} : HoldsBytes files path bytes →
    Yaml.readBytes bytes = .error .malformed → Broken (.malformed path (diagnosis path bytes))
  | encoding {bytes : List UInt8} {fault : Text.Utf8.Fault} : HoldsBytes files path bytes →
    Yaml.readBytes bytes = .error (.encoding fault) → Broken (.encoding fault)
  | tooDeep {bytes : List UInt8} : HoldsBytes files path bytes →
    Yaml.readBytes bytes = .error .tooDeep → Broken .tooDeep
  | scalar {bytes : List UInt8} {fault : Yaml.ScalarFault} : HoldsBytes files path bytes →
    Yaml.readBytes bytes = .error (.scalar fault) → Broken (.scalar fault)
  | notAMap {bytes : List UInt8} {value : Value} : HoldsBytes files path bytes →
    Yaml.readBytes bytes = .ok value → value.entries? = none → Broken (.notAMap path)

variable {diagnosis files path}

/-- What a file gives is what the reading of its content says. -/
theorem ofFile_of_holdsBytes {bytes : List UInt8} (h : HoldsBytes files path bytes) :
    ofFile diagnosis files path =
      match Yaml.readBytes bytes with
      | .error fault => .error (.ofFault path (diagnosis path bytes) fault)
      | .ok (.map entries) => .ok entries
      | .ok _ => .error (.notAMap path) := by
  cases hread : Yaml.readBytes bytes with
  | error fault => simp [ofFile, h.has, h.read, hread]
  | ok value => cases value <;> simp [ofFile, h.has, h.read, hread]

/-- A file gives a map or it is broken. -/
theorem holdsMap_or_broken (diagnosis : Diagnosis) (files : FileSystem) (path : String) :
    (∃ base, HoldsMap files path base ∧ ofFile diagnosis files path = .ok base) ∨
      ∃ error, Broken diagnosis files path error ∧ ofFile diagnosis files path = .error error := by
  cases hhas : files.has path with
  | false => exact .inr ⟨_, .missing hhas, by rw [ofFile, hhas]; rfl⟩
  | true =>
    cases hread : files.read path with
    | error fault => exact .inr ⟨_, .unreadable hhas hread, by rw [ofFile, hhas, hread]; rfl⟩
    | ok bytes =>
      have hbytes : HoldsBytes files path bytes := ⟨hhas, hread⟩
      rw [ofFile_of_holdsBytes hbytes]
      cases hdocument : Yaml.readBytes bytes with
      | error fault =>
        cases fault with
        | malformed => exact .inr ⟨_, .malformed hbytes hdocument, rfl⟩
        | encoding fault => exact .inr ⟨_, .encoding hbytes hdocument, rfl⟩
        | tooDeep => exact .inr ⟨_, .tooDeep hbytes hdocument, rfl⟩
        | scalar fault => exact .inr ⟨_, .scalar hbytes hdocument, rfl⟩
      | ok value =>
        cases value with
        | map entries => exact .inl ⟨entries, ⟨bytes, hbytes, hdocument⟩, rfl⟩
        | _ => exact .inr ⟨_, .notAMap hbytes hdocument rfl, rfl⟩

theorem ofFile_of_holdsMap {base : List (Value × Value)} (h : HoldsMap files path base) :
    ofFile diagnosis files path = .ok base := by
  obtain ⟨bytes, hbytes, hdocument⟩ := h
  rw [ofFile_of_holdsBytes hbytes, hdocument]

theorem ofFile_of_broken {error : LoadError} (h : Broken diagnosis files path error) :
    ofFile diagnosis files path = .error error := by
  cases h with
  | missing hhas =>
    rw [ofFile, hhas]
    rfl
  | unreadable hhas hread =>
    rw [ofFile, hhas, hread]
    rfl
  | notAMap hbytes hdocument hvalue =>
    rename_i bytes value
    rw [ofFile_of_holdsBytes hbytes, hdocument]
    cases value with
    | map entries => cases hvalue
    | _ => rfl
  | _ hbytes hdocument =>
    rw [ofFile_of_holdsBytes hbytes, hdocument]
    rfl

theorem broken_of_ofFile {error : LoadError} (h : ofFile diagnosis files path = .error error) :
    Broken diagnosis files path error := by
  rcases holdsMap_or_broken diagnosis files path with ⟨base, -, hok⟩ | ⟨other, hbroken, hother⟩
  · cases h.symm.trans hok
  · cases h.symm.trans hother
    exact hbroken

end Files

/-! ## What a source gives -/

/-- A variable that is not empty sets a field. -/
def VariableSets (bindings : List (String × String)) (field : String) (value : Value) : Prop :=
  ∃ name text, (name, field) ∈ variableNames ∧ set? bindings name = some text ∧ value = .text text

/-- The map that a source gives: that in the file, the defaults with what is set written over them,
or the defaults. -/
inductive IsBase (files : FileSystem) (environment : Environment) :
    Source → List (Value × Value) → Prop
  | requested {path : String} {base : List (Value × Value)} : HoldsMap files path base →
    IsBase files environment (.requested path) base
  | userFile {path : String} {base : List (Value × Value)} : HoldsMap files path base →
    IsBase files environment (.userFile path) base
  | environment {base : List (Value × Value)} :
    Overlaid Settings.defaults (VariableSets environment.bindings) base →
      IsBase files environment .environment base
  | defaults : IsBase files environment .defaults Settings.defaults

/-- A source that is a file and gives no map. -/
inductive Source.Broken (diagnosis : Diagnosis) (files : FileSystem) : Source → LoadError → Prop
  | requested {path : String} {error : LoadError} : Settings.Broken diagnosis files path error →
    Broken diagnosis files (.requested path) error
  | userFile {path : String} {error : LoadError} : Settings.Broken diagnosis files path error →
    Broken diagnosis files (.userFile path) error

/-- Two surroundings agree on a source: a file is there in both or in neither, and the same is read
in it; the variables that are not empty have the same values; about the defaults there is nothing to
agree on. -/
def Agree (files others : FileSystem) (environment environment' : Environment) : Source → Prop
  | .requested path => files.has path = others.has path ∧ files.read path = others.read path
  | .userFile path => files.has path = others.has path ∧ files.read path = others.read path
  | .environment => ∀ entry ∈ variableNames,
    set? environment.bindings entry.1 = set? environment'.bindings entry.1
  | .defaults => True

section Given

variable {diagnosis : Diagnosis} {files others : FileSystem}
  {environment environment' : Environment} {source : Source}

/-- What the variables set are the values that are written over the defaults. -/
theorem variableSets_iff {bindings : List (String × String)} {field : String} {value : Value} :
    VariableSets bindings field value ↔
      (field, value) ∈ (ofVariables bindings).map fun entry => (entry.1, Value.text entry.2) := by
  rw [ofVariables_eq]
  constructor
  · rintro ⟨name, text, hname, hset, rfl⟩
    refine List.mem_map.mpr ⟨(field, text), List.mem_filterMap.mpr ⟨_, hname, ?_⟩, rfl⟩
    rw [hset]
    rfl
  · intro h
    obtain ⟨⟨_, text⟩, hmem, heq⟩ := List.mem_map.mp h
    obtain ⟨⟨name, _⟩, hname, hset⟩ := List.mem_filterMap.mp hmem
    obtain ⟨_, htext, hfield⟩ := Option.map_eq_some_iff.mp hset
    cases hfield
    cases heq
    exact ⟨name, text, hname, htext, rfl⟩

theorem overlaid_environmentMap (bindings : List (String × String)) :
    Overlaid defaults (VariableSets bindings) (environmentMap bindings) := by
  have hnodup : (((ofVariables bindings).map fun entry => (entry.1, Value.text entry.2)).map
      (·.1)).Nodup := by
    have hfields : ((variableNames.filterMap fun entry =>
        (set? bindings entry.1).map (entry.2, ·)).map (·.1)).Nodup :=
      nodup_map_fst_filterMap (by decide)
    rw [← ofVariables_eq] at hfields
    simpa [List.map_map, Function.comp_def] using hfields
  have hwritten : VariableSets bindings = fun field value =>
      (field, value) ∈ (ofVariables bindings).map fun entry => (entry.1, Value.text entry.2) := by
    funext field value
    exact propext variableSets_iff
  rw [hwritten]
  exact overlaid_overlay hnodup defaults

/-- **A source gives a map, or it is a file that is broken.** -/
theorem isBase_or_broken (diagnosis : Diagnosis) (files : FileSystem) (environment : Environment)
    (source : Source) :
    (∃ base, IsBase files environment source base) ∨
      ∃ error, source.Broken diagnosis files error := by
  cases source with
  | requested path =>
    rcases holdsMap_or_broken diagnosis files path with ⟨base, h, -⟩ | ⟨error, h, -⟩
    · exact .inl ⟨base, .requested h⟩
    · exact .inr ⟨error, .requested h⟩
  | userFile path =>
    rcases holdsMap_or_broken diagnosis files path with ⟨base, h, -⟩ | ⟨error, h, -⟩
    · exact .inl ⟨base, .userFile h⟩
    · exact .inr ⟨error, .userFile h⟩
  | environment => exact .inl ⟨_, .environment (overlaid_environmentMap environment.bindings)⟩
  | defaults => exact .inl ⟨_, .defaults⟩

/-- The map that is loaded has the fields of the map that the source gives. -/
theorem exists_map_of_isBase (diagnosis : Diagnosis) {base : List (Value × Value)}
    (h : IsBase files environment source base) :
    ∃ entries, source.map diagnosis files environment = .ok entries ∧
      ∀ name, Value.field? entries name = Value.field? base name := by
  cases h with
  | requested hbase => exact ⟨base, ofFile_of_holdsMap hbase, fun _ => rfl⟩
  | userFile hbase => exact ⟨base, ofFile_of_holdsMap hbase, fun _ => rfl⟩
  | environment hbase =>
    exact ⟨_, rfl, hbase.field?_eq (overlaid_environmentMap environment.bindings) fun _ => rfl⟩
  | defaults => exact ⟨_, rfl, fun _ => rfl⟩

theorem Source.Broken.map_eq {error : LoadError} (h : source.Broken diagnosis files error) :
    source.map diagnosis files environment = .error error := by
  cases h with
  | requested hbroken => exact ofFile_of_broken hbroken
  | userFile hbroken => exact ofFile_of_broken hbroken

theorem ofFile_eq_of_agree {path : String} (hhas : files.has path = others.has path)
    (hread : files.read path = others.read path) :
    ofFile diagnosis files path = ofFile diagnosis others path := by
  rw [ofFile, ofFile, hhas, hread]

/-- **A source gives the same wherever there is agreement on it.** -/
theorem map_eq_of_agree (h : Agree files others environment environment' source) :
    source.map diagnosis files environment = source.map diagnosis others environment' := by
  cases source with
  | requested path => exact ofFile_eq_of_agree h.1 h.2
  | userFile path => exact ofFile_eq_of_agree h.1 h.2
  | environment =>
    have hset : ofVariables environment.bindings = ofVariables environment'.bindings := by
      rw [ofVariables_eq, ofVariables_eq]
      exact List.filterMap_congr fun entry hentry => by rw [h entry hentry]
    rw [Source.map, Source.map, environmentMap, environmentMap, hset]
  | defaults => rfl

end Given

end Settings
end SchemaTypes

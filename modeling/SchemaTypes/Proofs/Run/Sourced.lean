import Mathlib
import SchemaTypes.Proofs.CommandLine.Given
import SchemaTypes.Proofs.Run.Outcome
import SchemaTypes.Proofs.Settings.Choice

/-!
# Where the settings of a run come from

The settings of a run come from one source, and from the flags of its command line that give
connection settings. Which source it is depends on the file that the command line asks for, on the
user's own file and on the variables, in this order. The source gives a map: a file the document in
its content, the variables and the defaults what is set. What the flags give is written over the
map, with nothing else changed. A chosen file that is missing, cannot be read, or holds no document
that is a map is an error of the run, and no other source is tried in its place.

Sources behind the chosen one play no part: two runs with the same arguments that agree on the
source that both choose find the same settings, or fail for the same reason, and hand the same
settings to the driver.

All of this is `Sourced`, and it holds of every run whose arguments are accepted (`sourced_run`).
-/

namespace SchemaTypes
namespace Run

open CommandLine (Argument Flag Options TakenFrom textsFor valueOf)

/-! ## What the command line gives -/

/-- The flags that give connection settings, behind the fields that they give. -/
def connectionFlags : List (String × Flag) :=
  [("host", .host), ("port", .port), ("user", .user), ("password", .password),
    ("database", .database)]

/-- The arguments give a value to a field: the value of the text that its flag is given last. -/
def FlagGives (arguments : List Argument) (field : String) (value : Value) : Prop :=
  ∃ flag text, (field, flag) ∈ connectionFlags ∧
    (textsFor flag arguments).getLast? = some text ∧ valueOf flag text = .ok value

/-- The file that the arguments ask for. -/
def requestedFile (arguments : List Argument) : Option String :=
  (CommandLine.lastValue? .connFile none (textsFor .connFile arguments)).bind Value.text?

section Flags

variable {arguments : List Argument} {options : Options}

theorem value?_defaults_of_mem_connectionFlags :
    ∀ entry ∈ connectionFlags, Options.defaults.value? entry.2 = none := by
  simp [connectionFlags, Options.value?, Options.defaults]

theorem overrides_eq (options : Options) :
    overrides options = connectionFlags.filterMap fun entry =>
      (options.value? entry.2).map (entry.1, ·) := rfl

/-- The entries that options write over a map are those that the arguments give. -/
theorem mem_overrides_iff (h : TakenFrom .defaults arguments options) {field : String}
    {value : Value} : (field, value) ∈ overrides options ↔ FlagGives arguments field value := by
  rw [overrides_eq, List.mem_filterMap]
  constructor
  · rintro ⟨⟨_, flag⟩, hflag, hvalue⟩
    obtain ⟨_, hvalue, heq⟩ := Option.map_eq_some_iff.mp hvalue
    cases heq
    have hdefault := value?_defaults_of_mem_connectionFlags _ hflag
    obtain ⟨text, htext, hvalue⟩ := (h.value?_eq_some_iff hdefault).mp hvalue
    exact ⟨flag, text, hflag, htext, hvalue⟩
  · rintro ⟨flag, text, hflag, htext, hvalue⟩
    have hdefault := value?_defaults_of_mem_connectionFlags _ hflag
    have hsome := (h.value?_eq_some_iff hdefault).mpr ⟨text, htext, hvalue⟩
    exact ⟨(field, flag), hflag, by rw [hsome]; rfl⟩

/-- A flag that is given gives a value. -/
theorem exists_flagGives (h : TakenFrom .defaults arguments options) {field : String} {flag : Flag}
    (hflag : (field, flag) ∈ connectionFlags) (hgiven : textsFor flag arguments ≠ []) :
    ∃ value, FlagGives arguments field value := by
  obtain ⟨text, htext⟩ := Option.isSome_iff_exists.mp (List.getLast?_isSome.mpr hgiven)
  obtain ⟨value, hvalue⟩ := h.valueOf_eq_ok (List.mem_of_getLast? htext)
  exact ⟨value, flag, text, hflag, htext, hvalue⟩

theorem requestedBy_eq (h : TakenFrom .defaults arguments options) :
    requestedBy options = requestedFile arguments := by
  have hvalue : options.connFile = options.value? .connFile := rfl
  rw [requestedBy, hvalue, h.values]
  rfl

/-- What the arguments give is what their options give. -/
theorem flagGives_eq (h : TakenFrom .defaults arguments options) :
    FlagGives arguments = Gives options := by
  funext field value
  exact propext (mem_overrides_iff h).symm

end Flags

/-! ## What is found -/

section Found

variable {database : Database} {surroundings other : Surroundings} {options : Options}

/-- Whether the output is a path does not depend on the current directory. -/
theorem exists_outputPath {current : Place} {output : Value} {path : Path}
    (h : outputPath current output = .ok path) (current' : Place) :
    ∃ path', outputPath current' output = .ok path' := by
  unfold outputPath at h ⊢
  split at h
  · dsimp only at h ⊢
    split at h
    · cases h
    · rename_i hnull
      rw [if_neg hnull]
      exact ⟨_, rfl⟩
  · cases h

/-- The settings with which a run connects are those that it finds. -/
theorem opened_withOptions (database : Database) (surroundings : Surroundings)
    (options : Options) :
    (withOptions database surroundings options).opened = [] ∨
      ∃ settings, (findSettings surroundings options).1 = .ok settings ∧
        (withOptions database surroundings options).opened = [settings] := by
  rcases (lawful_withOptions database surroundings options).opened with
    ⟨output, settings, hconfigured, hopened⟩ | ⟨-, hopened⟩
  · exact .inr ⟨settings, (configured_eq_ok_iff.mp hconfigured).2, hopened⟩
  · exact .inl hopened

theorem opened_of_error {error : Error}
    (h : (findSettings surroundings options).1 = .error error) :
    (withOptions database surroundings options).opened = [] := by
  rcases opened_withOptions database surroundings options with hopened | ⟨settings, hfound, -⟩
  · exact hopened
  · rw [h] at hfound
    cases hfound

/-- Runs that find the same settings connect with the same settings. -/
theorem opened_eq_of_findSettings_eq
    (h : (findSettings other options).1 = (findSettings surroundings options).1) :
    (withOptions database other options).opened =
      (withOptions database surroundings options).opened := by
  have hopened := (lawful_withOptions database surroundings options).opened
  have hopened' := (lawful_withOptions database other options).opened
  -- both runs have a path for their output, or none has
  rcases hopened with ⟨output, settings, hconfigured, hopened⟩ | ⟨⟨error, hconfigured⟩, hopened⟩
  · rw [configured_eq_ok_iff] at hconfigured
    obtain ⟨output', houtput'⟩ := exists_outputPath hconfigured.1 other.files.current
    have hother : configured other options = .ok (output', settings) :=
      configured_eq_ok_iff.mpr ⟨houtput', h.trans hconfigured.2⟩
    rcases hopened' with ⟨_, settings', hconfigured', hopened'⟩ | ⟨⟨error, hconfigured'⟩, -⟩
    · rw [hother] at hconfigured'
      cases hconfigured'
      rw [hopened, hopened']
    · rw [hother] at hconfigured'
      cases hconfigured'
  · rcases hopened' with ⟨output', settings, hconfigured', -⟩ | ⟨-, hopened'⟩
    · rw [configured_eq_ok_iff] at hconfigured'
      obtain ⟨output, houtput⟩ := exists_outputPath hconfigured'.1 surroundings.files.current
      have hthis : configured surroundings options = .ok (output, settings) :=
        configured_eq_ok_iff.mpr ⟨houtput, h.symm.trans hconfigured'.2⟩
      rw [hthis] at hconfigured
      cases hconfigured
    · rw [hopened, hopened']

end Found

/-! ## Whole runs -/

section Sourced

/-- The source that a run chooses in its surroundings. -/
def Chooses (surroundings : Surroundings) (arguments : List Argument) (source : Settings.Source) :
    Prop :=
  Settings.Chosen surroundings.files surroundings.environment (requestedFile arguments) source

/-- What holds of the settings of every run with the given arguments. -/
structure Sourced (database : Database) (surroundings : Surroundings) (texts : List String)
    (arguments : List Argument) (options : Options) : Prop where
  /-- A flag that is given gives a value, whichever this is. -/
  given : ∀ field flag, (field, flag) ∈ connectionFlags → textsFor flag arguments ≠ [] →
    ∃ value, FlagGives arguments field value
  /-- One source is chosen, unless it cannot be told whether the user's own file exists. -/
  source : (∃ source, Chooses surroundings arguments source ∧
      ∀ other, Chooses surroundings arguments other → other = source) ∨
    (∃ error, Settings.Undecided surroundings.files surroundings.environment
      (requestedFile arguments) error ∧
      (findSettings surroundings options).1 = .error (.loading error)) ∧
      ∀ source, ¬ Chooses surroundings arguments source
  /-- The chosen source gives a map, unless it is a file that is broken. -/
  based : ∀ source, Chooses surroundings arguments source →
    (∃ base, Settings.IsBase surroundings.files surroundings.environment source base) ∨
      ∃ error, source.Broken surroundings.diagnosis surroundings.files error
  /-- What the flags give is written over the map, and the result is checked. -/
  found : ∀ source base, Chooses surroundings arguments source →
    Settings.IsBase surroundings.files surroundings.environment source base →
      (∃ entries, Settings.Overlaid base (FlagGives arguments) entries) ∧
      ∀ entries, Settings.Overlaid base (FlagGives arguments) entries →
        (findSettings surroundings options).1 = (Settings.ofEntries entries).mapError .settings
  /-- What is wrong with a file that is broken is the error, and no other source is tried. -/
  broken : ∀ source error, Chooses surroundings arguments source →
    source.Broken surroundings.diagnosis surroundings.files error →
      (findSettings surroundings options).1 = .error (.loading error) ∧
      (run database surroundings texts).opened = []
  /-- The settings that are found are those that the driver gets, if it gets any. -/
  opened : (run database surroundings texts).opened = [] ∨
    ∃ settings, (findSettings surroundings options).1 = .ok settings ∧
      (run database surroundings texts).opened = [settings]
  /-- Nothing but the chosen source and the arguments has an influence. -/
  independent : ∀ (other : Surroundings) source, other.diagnosis = surroundings.diagnosis →
    Chooses surroundings arguments source → Chooses other arguments source →
    Settings.Agree surroundings.files other.files surroundings.environment other.environment
      source →
      (findSettings other options).1 = (findSettings surroundings options).1 ∧
      (run database other texts).opened = (run database surroundings texts).opened

variable {arguments : List Argument} {options : Options} {surroundings other : Surroundings}
  {source : Settings.Source}

theorem chosenFor_iff (h : TakenFrom .defaults arguments options) :
    ChosenFor surroundings options source ↔ Chooses surroundings arguments source := by
  rw [ChosenFor, Chooses, requestedBy_eq h]

theorem chooses_or_undecided (h : TakenFrom .defaults arguments options)
    (surroundings : Surroundings) :
    (∃ source, Chooses surroundings arguments source ∧
      ∀ other, Chooses surroundings arguments other → other = source) ∨
    (∃ error, Settings.Undecided surroundings.files surroundings.environment
      (requestedFile arguments) error ∧
      (findSettings surroundings options).1 = .error (.loading error)) ∧
      ∀ source, ¬ Chooses surroundings arguments source := by
  rcases Settings.chosen_or_undecided surroundings.files surroundings.environment
    (requestedFile arguments) with ⟨source, hsource⟩ | ⟨error, hundecided⟩
  · exact .inl ⟨source, hsource, fun _ hother => hsource.unique hother⟩
  · have hfound := hundecided
    rw [← requestedBy_eq h] at hfound
    exact .inr ⟨⟨error, hundecided, findSettings_of_undecided hfound⟩,
      fun _ => hundecided.not_chosen⟩

/-- **The settings of every run come from one source and from its flags**, whatever the arguments,
the files and the environment are. -/
theorem sourced_run {texts : List String} (h : CommandLine.parse texts = .ok options)
    (database : Database) (surroundings : Surroundings) :
    ∃ arguments, Argument.ofTexts texts = .ok arguments ∧
      Sourced database surroundings texts arguments options := by
  obtain ⟨arguments, harguments, htaken⟩ := CommandLine.takenFrom_of_parse h
  have hrun : ∀ surroundings, run database surroundings texts =
      withOptions database surroundings options := by
    intro surroundings
    rw [run, h]
  refine ⟨arguments, harguments, ?_⟩
  exact {
    given := fun field flag hflag hgiven => exists_flagGives htaken hflag hgiven
    source := chooses_or_undecided htaken surroundings
    based := fun source _ => Settings.isBase_or_broken surroundings.diagnosis surroundings.files
      surroundings.environment source
    found := fun source base hsource hbase => by
      have hchosen := (chosenFor_iff htaken).mpr hsource
      rw [flagGives_eq htaken]
      exact ⟨⟨_, overlaid_overrides options base⟩,
        fun entries hentries => findSettings_of_isBase hchosen hbase hentries⟩
    broken := fun source error hsource hbroken => by
      have hfound := findSettings_of_broken ((chosenFor_iff htaken).mpr hsource) hbroken
      refine ⟨hfound, ?_⟩
      rw [hrun]
      exact opened_of_error hfound
    opened := by
      rw [hrun]
      exact opened_withOptions database surroundings options
    independent := fun other source hdiagnosis hsource hother hagree => by
      have hfound : (findSettings other options).1 = (findSettings surroundings options).1 := by
        rw [findSettings_of_chosen ((chosenFor_iff htaken).mpr hsource),
          findSettings_of_chosen ((chosenFor_iff htaken).mpr hother), hdiagnosis,
          Settings.map_eq_of_agree hagree]
      rw [hrun, hrun]
      exact ⟨hfound, opened_eq_of_findSettings_eq hfound⟩ }

/-- The options for the port zero, and for settings in a file but for the host. -/
def zeroOptions (file : String) : Options :=
  { Options.defaults with
    port := some (.int 0)
    user := some (.text "u")
    password := some (.text "p")
    database := some (.text "d")
    connFile := some (.text file) }

/-- The texts that give these options. -/
def zeroTexts (file : String) : List String :=
  ["--port", "0", "-u", "u", "--password", "p", "-d", "d", "--conn-file", file]

/-- What the texts are as arguments. -/
def zeroArguments (file : String) : List Argument := [
  .flag .port true none, .operand "0", .flag .user false none, .operand "u",
  .flag .password true none, .operand "p", .flag .database false none, .operand "d",
  .flag .connFile true none, .operand file]

/-- A host and a port. -/
def hostAndPort : List (Value × Value) :=
  [(.text "host", .text "h"), (.text "port", .int 5)]

/-- The content of a file that holds them. -/
def hostAndPortBytes : List UInt8 :=
  Text.Utf8.encode "host: h\nport: 5"

theorem readBytes_hostAndPort : Yaml.readBytes hostAndPortBytes = .ok (.map hostAndPort) := by
  cbv

/-- What a run finds around it if they stand in a file in the current directory. -/
def besideFile : Surroundings :=
  { emptySurroundings with
    files :=
      { entries := [(["w"], .directory), (["w", "c.yaml"], .file hostAndPortBytes)]
        current := ["w"] } }

/-- What a run finds around it if they stand in the user's own file, and a variable is set. -/
def ownFile : Surroundings :=
  { emptySurroundings with
    files :=
      { entries := [(["w"], .directory), ([".pgtsgen"], .directory),
          ([".pgtsgen", "postgres.yaml"], .file hostAndPortBytes)]
        current := ["w"] }
    environment := ⟨[("DB_HOST", "other")], "/"⟩ }

/-- Runs that give a zero in place of the port: with the file that they ask for, without it, and
asking for a file without a name, so that the user's own file is the source. -/
theorem sourced_run_zero :
    CommandLine.parse (zeroTexts "c.yaml") = .ok (zeroOptions "c.yaml") ∧
      CommandLine.parse (zeroTexts "") = .ok (zeroOptions "") ∧
      (Sourced (emptyDatabase (.answers [])) besideFile (zeroTexts "c.yaml")
          (zeroArguments "c.yaml") (zeroOptions "c.yaml") ∧
        (findSettings besideFile (zeroOptions "c.yaml")).1 =
          .error (.settings (.invalid [⟨[.field "port"], .portRange⟩]))) ∧
      (Sourced (emptyDatabase (.answers [])) ownFile (zeroTexts "c.yaml")
          (zeroArguments "c.yaml") (zeroOptions "c.yaml") ∧
        (findSettings ownFile (zeroOptions "c.yaml")).1 =
          .error (.loading (.notFound "c.yaml"))) ∧
      Sourced (emptyDatabase (.answers [])) ownFile (zeroTexts "") (zeroArguments "")
          (zeroOptions "") ∧
        (findSettings ownFile (zeroOptions "")).1 =
          .error (.settings (.invalid [⟨[.field "port"], .portRange⟩])) := by
  have hfile : CommandLine.parse (zeroTexts "c.yaml") = .ok (zeroOptions "c.yaml") := rfl
  have hempty : CommandLine.parse (zeroTexts "") = .ok (zeroOptions "") := rfl
  have hsourced : ∀ file surroundings,
      CommandLine.parse (zeroTexts file) = .ok (zeroOptions file) →
      Argument.ofTexts (zeroTexts file) = .ok (zeroArguments file) →
      Sourced (emptyDatabase (.answers [])) surroundings (zeroTexts file) (zeroArguments file)
        (zeroOptions file) := by
    intro file surroundings h harguments
    obtain ⟨_, hother, hsourced⟩ := sourced_run h (emptyDatabase (.answers [])) surroundings
    cases harguments.symm.trans hother
    exact hsourced
  have hbeside := hsourced "c.yaml" besideFile hfile rfl
  have hmissing := hsourced "c.yaml" ownFile hfile rfl
  have hown := hsourced "" ownFile hempty rfl
  -- what is written over a host and a port does not depend on the name of the file
  have hentries : ∀ file, Argument.ofTexts (zeroTexts file) = .ok (zeroArguments file) →
      CommandLine.parse (zeroTexts file) = .ok (zeroOptions file) →
      Settings.Overlaid hostAndPort (FlagGives (zeroArguments file))
        (Settings.overlay hostAndPort (overrides (zeroOptions file))) := by
    intro file harguments h
    obtain ⟨_, hother, htaken⟩ := CommandLine.takenFrom_of_parse h
    cases harguments.symm.trans hother
    rw [flagGives_eq htaken]
    exact overlaid_overrides _ _
  refine ⟨hfile, hempty, ⟨hbeside, ?_⟩, ⟨hmissing, ?_⟩, hown, ?_⟩
  · have hholds : Settings.HoldsMap besideFile.files "c.yaml" hostAndPort :=
      ⟨hostAndPortBytes, ⟨by decide, by decide⟩, readBytes_hostAndPort⟩
    rw [(hbeside.found _ _ (.requested rfl (by decide)) (.requested hholds)).2 _
      (hentries "c.yaml" rfl hfile)]
    rfl
  · exact (hmissing.broken _ _ (.requested rfl (by decide)) (.requested (.missing (by decide)))).1
  · have hholds : Settings.HoldsMap ownFile.files "/.pgtsgen/postgres.yaml" hostAndPort :=
      ⟨hostAndPortBytes, ⟨by decide, by decide⟩, readBytes_hostAndPort⟩
    have hunrequested : Settings.Unrequested (requestedFile (zeroArguments "")) := by
      rintro path ⟨⟩
      rfl
    have hpath : Settings.userFile? ownFile.environment =
        some ⟨1, [".pgtsgen", "postgres.yaml"]⟩ := by decide
    have htext : (Path.mk 1 [".pgtsgen", "postgres.yaml"]).text = "/.pgtsgen/postgres.yaml" := by
      decide
    have hchooses : Chooses ownFile (zeroArguments "") (.userFile "/.pgtsgen/postgres.yaml") := by
      rw [← htext]
      exact .userFile hunrequested hpath (by decide)
    rw [(hown.found _ _ hchooses (.userFile hholds)).2 _ (hentries "" rfl hempty)]
    rfl

end Sourced

end Run
end SchemaTypes

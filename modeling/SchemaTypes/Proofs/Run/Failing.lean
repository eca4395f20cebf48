import SchemaTypes.Proofs.Declaration.CollisionReport
import SchemaTypes.Proofs.Run.Messages
import SchemaTypes.Proofs.Run.Work
import SchemaTypes.Proofs.Settings.Choice

/-!
# Which stage of a run fails, and what is said

A run that does not succeed fails at one of its stages, and behind it no other stage is tried.
`Fails` lists the ways, and the text that belongs to each: the output is no path, no settings are
found, connecting fails or the database does not answer, the schema cannot be read or its names
collide, or the text cannot be put into its file. What is wrong at a stage is said in terms of what
the run meets there, of files and their content, of rows and of failures, and not in terms of the
errors that the stages hand on.

These are all the ways, and no run fails in two of them with different texts: the text is that of
the error that is the verdict of the run (`fails_iff`).
-/

namespace SchemaTypes
namespace Run

/-! ## Stages that fail -/

/-- The output is no path: it is no text, or there is a null character in it. -/
inductive Misplaced (output : Value) : String → Prop
  | noPath : output.text? = none →
    Misplaced output ("unsupported operand type(s) for /: 'PosixPath' and '"
      ++ output.kindName ++ "'")
  | nullCharacter {s : String} : output = .text s → (Path.ofText s).hasNull = true →
    Misplaced output "embedded null byte"

/-- The file for settings that options ask for. -/
def requestedBy (options : CommandLine.Options) : Option String :=
  options.connFile.bind Value.text?

/-- Options give a value to a field of the settings. -/
def Gives (options : CommandLine.Options) (field : String) (value : Value) : Prop :=
  (field, value) ∈ overrides options

section Stages

variable (database : Database) (surroundings : Surroundings) (options : CommandLine.Options)

/-- The source of the settings that is chosen for given options. -/
def ChosenFor (source : Settings.Source) : Prop :=
  Settings.Chosen surroundings.files surroundings.environment (requestedBy options) source

/-- No settings are found. Nobody can tell where they come from, the file that they come from is
broken, or they do not hold what they should after the options were written over them. -/
inductive Unsettled : String → Prop
  | undecided {error : Settings.LoadError} {text : String} :
    Settings.Undecided surroundings.files surroundings.environment (requestedBy options) error →
      error.Says text → Unsettled text
  | broken {source : Settings.Source} {error : Settings.LoadError} {text : String} :
    ChosenFor surroundings options source →
      source.Broken surroundings.diagnosis surroundings.files error → error.Says text →
        Unsettled text
  | refused {source : Settings.Source} {base entries : List (Value × Value)} {text : String} :
    ChosenFor surroundings options source →
      Settings.IsBase surroundings.files surroundings.environment source base →
      Settings.Overlaid base (Gives options) entries → Settings.Complains entries text →
        Unsettled text

/-- The schema cannot be read: a query fails, or a row lacks a column that it has to have, or a
record does not accept its values. It is the first point of the introspection where something is
wrong. -/
inductive Unread (executor : Introspection.Executor) (schemaName : Value) : String → Prop
  | query {before : List Introspection.Query} {query : Introspection.Query} {failure : Failure}
    {text : String} : (introspect executor schemaName).queries = before ++ [query] →
      executor before query = .error failure → query.Says failure text →
        Unread executor schemaName text
  | lacking {passed rest : List Introspection.Point} {point : Introspection.Point}
    {name : String} :
    (Introspection.catalogueOf executor schemaName).points schemaName = passed ++ point :: rest →
      (∀ other ∈ passed, other.fault executor schemaName = none) → point.query? = none →
      Introspection.lacking? point.row point.needs = some name →
        Unread executor schemaName ("'" ++ name ++ "'")
  | record {passed rest : List Introspection.Point} {point : Introspection.Point}
    {error : Introspection.RecordError} {text : String} :
    (Introspection.catalogueOf executor schemaName).points schemaName = passed ++ point :: rest →
      (∀ other ∈ passed, other.fault executor schemaName = none) →
      point.fault executor schemaName = some (.invalidRecord error) → error.Says text →
        Unread executor schemaName text

/-- The database has answered a run that knows the path of its output. -/
structure Answered (output : Path) : Prop where
  connects : ∃ settings, configured surroundings options = .ok (output, settings) ∧
    ∃ closingFailure, database.connect settings = .ok closingFailure
  answers : ∃ rows, database.ping.rows = .ok rows

/-- A stage of a run fails, and those before it do not; and what is said of it. -/
inductive Fails : String → Prop
  | output {text : String} : Misplaced options.output text → Fails text
  | settings {output : Path} {text : String} :
    outputPath surroundings.files.current options.output = .ok output →
      Unsettled surroundings options text → Fails text
  | connect {output : Path} {settings : Settings} {failure : Failure} :
    configured surroundings options = .ok (output, settings) →
      database.connect settings = .error failure → Fails failure.message
  | ping {output : Path} {settings : Settings} {closingFailure : Option Failure}
    {failure : Failure} : configured surroundings options = .ok (output, settings) →
      database.connect settings = .ok closingFailure → database.ping.rows = .error failure →
        Fails failure.message
  | introspection {output : Path} {text : String} :
    Answered database surroundings options output →
      Unread database.executor options.schema text → Fails text
  | collision {output : Path} {schema : DatabaseSchema} {collision : Collision} {text : String} :
    Answered database surroundings options output →
      (introspect database.executor options.schema).result = .ok schema →
      Reports schema collision text → Fails text
  | writing {output : Path} {schema : DatabaseSchema} {content text : String} {fault : FileFault} :
    Answered database surroundings options output →
      (introspect database.executor options.schema).result = .ok schema →
      schema.generate = .ok content → options.isDryRun = false →
      (surroundings.files.writeText output content).2 = .error fault → fault.Says text →
        Fails text

end Stages

section Errors

variable {database : Database} {surroundings : Surroundings} {options : CommandLine.Options}
  {text : String}

/-! ## The output and the settings -/

theorem misplaced_iff (current : Place) {output : Value} :
    Misplaced output text ↔
      ∃ error, outputPath current output = .error error ∧ error.message = text := by
  constructor
  · intro h
    cases h with
    | noPath houtput =>
      refine ⟨.noPath output.kindName, ?_, rfl⟩
      cases output with
      | text s => cases houtput
      | _ => rfl
    | nullCharacter houtput hnull =>
      rw [houtput]
      exact ⟨_, if_pos hnull, FileFault.says_iff.mp .nullCharacter⟩
  · rintro ⟨error, herror, rfl⟩
    cases output with
    | text s =>
      by_cases hnull : (Path.ofText s).hasNull
      · cases (if_pos hnull).symm.trans herror
        have hmessage : Error.message (.output ⟨.nullCharacter, (Path.ofText s).text⟩) =
            "embedded null byte" := FileFault.says_iff.mp .nullCharacter
        rw [hmessage]
        exact .nullCharacter rfl hnull
      · cases (if_neg hnull).symm.trans herror
    | _ =>
      cases herror
      exact .noPath rfl

/-- What options make of the map that is loaded, or of the error. -/
def settingsFrom (options : CommandLine.Options) :
    Except Settings.LoadError (List (Value × Value)) → Except Error Settings
  | .error error => .error (.loading error)
  | .ok entries =>
    (Settings.ofEntries (Settings.overlay entries (overrides options))).mapError .settings

theorem findSettings_eq (surroundings : Surroundings) (options : CommandLine.Options) :
    (findSettings surroundings options).1 =
      settingsFrom options (Settings.load surroundings.diagnosis surroundings.files
        surroundings.environment (requestedBy options)).result := by
  unfold findSettings requestedBy
  dsimp only
  split
  · rename_i h
    rw [h]
    rfl
  · rename_i h
    rw [h]
    rfl

/-- What is found is what the chosen source gives, with the options written over it. -/
theorem findSettings_of_chosen {source : Settings.Source}
    (h : ChosenFor surroundings options source) :
    (findSettings surroundings options).1 =
      settingsFrom options
        (source.map surroundings.diagnosis surroundings.files surroundings.environment) := by
  rw [findSettings_eq, Settings.result_load_of_chosen h]

/-- What options write over a map is what they give. -/
theorem overlaid_overrides (options : CommandLine.Options) (base : List (Value × Value)) :
    Settings.Overlaid base (Gives options) (Settings.overlay base (overrides options)) :=
  Settings.overlaid_overlay (Settings.nodup_map_fst_filterMap (by simp)) base

/-- The map that a chosen source gives, with what options give written over it, is checked. -/
theorem findSettings_of_isBase {source : Settings.Source} {base entries : List (Value × Value)}
    (hchosen : ChosenFor surroundings options source)
    (hbase : Settings.IsBase surroundings.files surroundings.environment source base)
    (hentries : Settings.Overlaid base (Gives options) entries) :
    (findSettings surroundings options).1 = (Settings.ofEntries entries).mapError .settings := by
  obtain ⟨loaded, hloaded, hsame⟩ := Settings.exists_map_of_isBase surroundings.diagnosis hbase
  have hfields := hentries.field?_eq (overlaid_overrides options loaded) hsame
  rw [findSettings_of_chosen hchosen, hloaded, settingsFrom,
    Settings.ofEntries_congr fun name _ => hfields name]

theorem findSettings_of_broken {source : Settings.Source} {error : Settings.LoadError}
    (hchosen : ChosenFor surroundings options source)
    (hbroken : source.Broken surroundings.diagnosis surroundings.files error) :
    (findSettings surroundings options).1 = .error (.loading error) := by
  rw [findSettings_of_chosen hchosen, hbroken.map_eq, settingsFrom]

theorem findSettings_of_undecided {error : Settings.LoadError}
    (h : Settings.Undecided surroundings.files surroundings.environment (requestedBy options)
      error) : (findSettings surroundings options).1 = .error (.loading error) := by
  rw [findSettings_eq, Settings.result_load_of_undecided h, settingsFrom]

/-- **No settings are found** just if nobody can tell their source, or the source is broken, or what
it gives is refused. -/
theorem unsettled_iff :
    Unsettled surroundings options text ↔
      ∃ error, (findSettings surroundings options).1 = .error error ∧ error.message = text := by
  constructor
  · intro h
    cases h with
    | undecided hundecided hsays =>
      exact ⟨_, findSettings_of_undecided hundecided, Settings.LoadError.says_iff.mp hsays⟩
    | broken hchosen hbroken hsays =>
      exact ⟨_, findSettings_of_broken hchosen hbroken, Settings.LoadError.says_iff.mp hsays⟩
    | refused hchosen hbase hentries hcomplains =>
      obtain ⟨error, herror, rfl⟩ := Settings.complains_iff.mp hcomplains
      refine ⟨.settings error, ?_, rfl⟩
      rw [findSettings_of_isBase hchosen hbase hentries, herror]
      rfl
  · rintro ⟨error, herror, rfl⟩
    rcases Settings.chosen_or_undecided surroundings.files surroundings.environment
      (requestedBy options) with ⟨source, hchosen⟩ | ⟨other, hundecided⟩
    · rcases Settings.isBase_or_broken surroundings.diagnosis surroundings.files
        surroundings.environment source with ⟨base, hbase⟩ | ⟨other, hbroken⟩
      · have hentries := overlaid_overrides options base
        rw [findSettings_of_isBase hchosen hbase hentries] at herror
        cases hfound : Settings.ofEntries (Settings.overlay base (overrides options)) with
        | ok settings =>
          rw [hfound] at herror
          cases herror
        | error other =>
          rw [hfound] at herror
          cases herror
          exact .refused hchosen hbase hentries (Settings.complains_iff.mpr ⟨other, hfound, rfl⟩)
      · rw [findSettings_of_broken hchosen hbroken] at herror
        cases herror
        exact .broken hchosen hbroken (Settings.LoadError.says_iff.mpr rfl)
    · rw [findSettings_of_undecided hundecided] at herror
      cases herror
      exact .undecided hundecided (Settings.LoadError.says_iff.mpr rfl)

/-! ## The schema -/

/-- The columns that are needed of rows have names that are shown as they are, in quotes. -/
theorem display_of_lacking {point : Introspection.Point} {row : Introspection.Row} {name : String}
    (h : Introspection.lacking? row point.needs = some name) :
    Text.display name = "'" ++ name ++ "'" := by
  have hdisplay : ∀ name ∈ ["table_name", "column_name", "data_type", "is_nullable", "typname"],
      Text.display name = "'" ++ name ++ "'" := by
    decide
  exact hdisplay name (point.needs_subset (List.mem_of_find?_eq_some h))

/-- **The schema cannot be read** just if the introspection fails, and the text is that of its
error. -/
theorem unread_iff {executor : Introspection.Executor} {schemaName : Value} :
    Unread executor schemaName text ↔
      ∃ error, (introspect executor schemaName).result = .error error ∧ error.message = text := by
  have hnone : ∀ {passed : List Introspection.Point},
      (∀ other ∈ passed, other.fault executor schemaName = none) ↔
        passed.findSome? (Introspection.Point.fault executor schemaName) = none :=
    List.findSome?_eq_none_iff.symm
  constructor
  · intro h
    cases h with
    | query hqueries hfailure hsays =>
      exact ⟨_, (Introspection.ends_at_query hqueries hfailure).2,
        Introspection.Query.says_iff.mp hsays⟩
    | lacking hpoints hpassed hquery hlacking =>
      exact ⟨_, (Introspection.ends_at_fault hpoints (hnone.mp hpassed)
        ((Introspection.fault_missing_iff hquery).mpr hlacking)).1, display_of_lacking hlacking⟩
    | record hpoints hpassed hfault hsays =>
      exact ⟨_, (Introspection.ends_at_fault hpoints (hnone.mp hpassed) hfault).1,
        hsays.message_eq⟩
  · rintro ⟨error, herror, rfl⟩
    have hfound := Introspection.errorOf_introspect executor schemaName
    rw [herror] at hfound
    obtain ⟨passed, point, rest, hpoints, hfault, hpassed⟩ :=
      List.findSome?_eq_some_iff.mp hfound.symm
    cases error with
    | query error =>
      obtain ⟨before, query, failure, hqueries, hfailure⟩ :=
        Introspection.exists_query_of_result herror
      have hresult := (Introspection.ends_at_query hqueries hfailure).2
      rw [herror] at hresult
      cases hresult
      exact .query hqueries hfailure (Introspection.Query.says_iff.mpr rfl)
    | missingColumn name =>
      have hquery := Introspection.query?_eq_none_of_fault hfault nofun
      have hlacking := (Introspection.fault_missing_iff hquery).mp hfault
      rw [Introspection.Error.message, display_of_lacking hlacking]
      exact .lacking hpoints hpassed hquery hlacking
    | invalidRecord error =>
      have hquery := Introspection.query?_eq_none_of_fault hfault nofun
      cases Introspection.ofRow_fault hquery hfault with
      | refused _ hsome hissues =>
        exact .record hpoints hpassed hfault
          ((Introspection.RecordError.says_iff hsome hissues).mpr rfl)

/-! ## Whole runs -/

theorem configured_eq_error_iff {error : Error} :
    configured surroundings options = .error error ↔
      outputPath surroundings.files.current options.output = .error error ∨
        ∃ output, outputPath surroundings.files.current options.output = .ok output ∧
          (findSettings surroundings options).1 = .error error := by
  have hreturn : ∀ (found : Path × Settings),
      (return found : Except Error (Path × Settings)) ≠ .error error := nofun
  simp only [configured, bind_eq_error_iff, hreturn, and_false, exists_false, or_false]

theorem generate_eq_error_iff {schema : DatabaseSchema} {collision : Collision} :
    schema.generate = .error collision ↔ schema.collision? = some collision := by
  rw [← DatabaseSchema.outcome_build_eq_error_iff, DatabaseSchema.generate]
  cases schema.build.outcome with
  | error other =>
    exact ⟨fun h => congrArg _ (Except.error.inj h), fun h => congrArg _ (Except.error.inj h)⟩
  | ok file => constructor <;> rintro ⟨⟩

theorem verdict_of_generation {output : Path} {error : Generation.Error}
    (h : Answered database surroundings options output)
    (herror : Generation.verdict database.executor surroundings.files (requestOf options output)
      = .error error) : verdict database surroundings options = .error (.generation error) := by
  obtain ⟨settings, hconfigured, closingFailure, hconnect⟩ := h.connects
  obtain ⟨rows, hping⟩ := h.answers
  rw [verdict_of_answered hconfigured hconnect hping, generated, herror]
  rfl

/-- A run that fails has an error for its verdict, with the text. -/
theorem Fails.exists_error (h : Fails database surroundings options text) :
    ∃ error, verdict database surroundings options = .error error ∧ error.message = text := by
  cases h with
  | output hmisplaced =>
    obtain ⟨error, herror, hmessage⟩ := (misplaced_iff surroundings.files.current).mp hmisplaced
    exact ⟨error, verdict_of_not_configured (configured_eq_error_iff.mpr (.inl herror)), hmessage⟩
  | settings houtput hunsettled =>
    obtain ⟨error, herror, hmessage⟩ := unsettled_iff.mp hunsettled
    have hconfigured := configured_eq_error_iff.mpr (.inr ⟨_, houtput, herror⟩)
    exact ⟨error, verdict_of_not_configured hconfigured, hmessage⟩
  | connect hconfigured hconnect => exact ⟨_, verdict_of_refused hconfigured hconnect, rfl⟩
  | ping hconfigured hconnect hping =>
    exact ⟨_, verdict_of_silent hconfigured hconnect hping, rfl⟩
  | introspection hanswered hunread =>
    obtain ⟨error, herror, hmessage⟩ := unread_iff.mp hunread
    refine ⟨.generation (.introspection error), verdict_of_generation hanswered ?_, hmessage⟩
    exact Generation.verdict_eq_error_iff.mpr (.inl ⟨error, herror, rfl⟩)
  | collision hanswered hschema hreports =>
    obtain ⟨hcollision, hmessage⟩ := DatabaseSchema.collision?_of_reports hreports
    have hgenerate := generate_eq_error_iff.mpr hcollision
    refine ⟨.generation (.collision _), verdict_of_generation hanswered ?_, hmessage⟩
    exact Generation.verdict_eq_error_iff.mpr (.inr ⟨_, hschema, .inl ⟨_, hgenerate, rfl⟩⟩)
  | writing hanswered hschema hgenerate hdry hfault hsays =>
    refine ⟨.generation (.file _), verdict_of_generation hanswered ?_,
      FileFault.says_iff.mp hsays⟩
    refine Generation.verdict_eq_error_iff.mpr (.inr ⟨_, hschema, .inr ⟨_, hgenerate, _, ?_, rfl⟩⟩)
    exact Generation.written_eq_error_iff.mpr ⟨hdry, hfault⟩

/-- A generation whose verdict is an error fails at one of its stages. -/
theorem fails_of_generation {output : Path} {error : Generation.Error}
    (hanswered : Answered database surroundings options output)
    (h : Generation.verdict database.executor surroundings.files (requestOf options output)
      = .error error) : Fails database surroundings options error.message := by
  rcases Generation.verdict_eq_error_iff.mp h with
    ⟨own, hresult, rfl⟩ | ⟨schema, hschema, ⟨collision, hgenerate, rfl⟩ |
      ⟨content, hgenerate, fault, hwritten, rfl⟩⟩
  · exact .introspection hanswered (unread_iff.mpr ⟨own, hresult, rfl⟩)
  · have hcollision := generate_eq_error_iff.mp hgenerate
    exact .collision hanswered hschema (DatabaseSchema.reports_of_collision? hcollision)
  · obtain ⟨hdry, hfault⟩ := Generation.written_eq_error_iff.mp hwritten
    exact .writing hanswered hschema hgenerate hdry hfault (FileFault.says_iff.mpr rfl)

/-- **A run fails** with a text just if its verdict is an error with this text. -/
theorem fails_iff :
    Fails database surroundings options text ↔
      ∃ error, verdict database surroundings options = .error error ∧ error.message = text := by
  constructor
  · exact Fails.exists_error
  · rintro ⟨error, hverdict, rfl⟩
    cases hconfigured : configured surroundings options with
    | error other =>
      cases (verdict_of_not_configured hconfigured).symm.trans hverdict
      rcases configured_eq_error_iff.mp hconfigured with houtput | ⟨output, houtput, hfound⟩
      · exact .output ((misplaced_iff _).mpr ⟨_, houtput, rfl⟩)
      · exact .settings houtput (unsettled_iff.mpr ⟨_, hfound, rfl⟩)
    | ok found =>
      obtain ⟨output, settings⟩ := found
      cases hconnect : database.connect settings with
      | error failure =>
        cases (verdict_of_refused hconfigured hconnect).symm.trans hverdict
        exact .connect hconfigured hconnect
      | ok closingFailure =>
        cases hping : database.ping.rows with
        | error failure =>
          cases (verdict_of_silent hconfigured hconnect hping).symm.trans hverdict
          exact .ping hconfigured hconnect hping
        | ok rows =>
          have hanswered : Answered database surroundings options output :=
            ⟨⟨settings, hconfigured, closingFailure, hconnect⟩, rows, hping⟩
          cases hgeneration : Generation.verdict database.executor surroundings.files
              (requestOf options output) with
          | error own =>
            cases (verdict_of_generation hanswered hgeneration).symm.trans hverdict
            exact fails_of_generation hanswered hgeneration
          | ok found =>
            rw [verdict_of_answered hconfigured hconnect hping, generated, hgeneration] at hverdict
            cases hverdict

end Errors

end Run
end SchemaTypes

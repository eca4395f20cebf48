import SchemaTypes.Proofs.Generation.Delivery
import SchemaTypes.Proofs.Session.Lifecycle
import SchemaTypes.Run

/-!
# What a run does before it closes its session

A run has seven stages: the path of the output and the settings are found, the database is
connected to and asked for an answer, the schema is introspected, its declarations are written as
a text, and the text is put into its file. `verdict` is the first of them that fails, or the path
and the text.

How far the stages get decides what the database sees of the run, and `Contact` lists the ways.
There is a connection only with settings that were found, no statement is sent without a
connection, and no query before the trivial statement was answered.

Both together are what is to be known of the work of a run (`follows_prepareAndWork`): nothing
later looks into the stages again.
-/

namespace SchemaTypes
namespace Run

variable (database : Database) (surroundings : Surroundings) (options : CommandLine.Options)

/-! ## Stages -/

/-- The path of the output and the settings, if both are found. -/
def configured : Except Error (Path × Settings) := do
  let output ← outputPath surroundings.files.current options.output
  let settings ← (findSettings surroundings options).1
  return (output, settings)

/-- What a run asks of its generation. -/
def requestOf (output : Path) : Generation.Request :=
  ⟨output, options.schema, options.isDryRun⟩

/-- What the generation of a run comes to. -/
def generated (output : Path) : Except Error (DatabaseSchema × String) :=
  (Generation.verdict database.executor surroundings.files (requestOf options output)).mapError
    .generation

/-- The path of the output, the schema and its text if all stages succeed, and otherwise the error
of the first that fails. -/
def verdict : Except Error (Path × DatabaseSchema × String) := do
  let (output, settings) ← configured surroundings options
  let _ ← (database.connect settings).mapError .database
  let _ ← database.ping.rows.mapError .database
  let (schema, content) ← generated database surroundings options output
  return (output, schema, content)

/-- All stages of a run succeed, with the given path, settings, schema and text. -/
structure Succeeds (output : Path) (settings : Settings) (schema : DatabaseSchema)
    (content : String) : Prop where
  configured : configured surroundings options = .ok (output, settings)
  connects : ∃ closingFailure, database.connect settings = .ok closingFailure
  answers : ∃ rows, database.ping.rows = .ok rows
  introspects : (introspect database.executor options.schema).result = .ok schema
  generates : schema.generate = .ok content
  writes : options.isDryRun = false → (surroundings.files.writeText output content).2 = .ok ()

/-- The queries of a run that gets as far as asking them. -/
def queries : List Introspection.Query :=
  (introspect database.executor options.schema).queries

/-- How far a run gets with the database: the settings with which it tries to connect, the session
it has then, and the statements that it sends. -/
inductive Contact : List Settings → Session → List Session.Statement → Prop
  | none {error : Error} :
    configured surroundings options = .error error → Contact [] .unconnected []
  | refused {output : Path} {settings : Settings} {failure : Failure} :
    configured surroundings options = .ok (output, settings) →
      database.connect settings = .error failure → Contact [settings] .unconnected []
  | silent {output : Path} {settings : Settings} {closingFailure : Option Failure}
    {failure : Failure} :
    configured surroundings options = .ok (output, settings) →
      database.connect settings = .ok closingFailure → database.ping.rows = .error failure →
        Contact [settings] (Session.unconnected.opened closingFailure) [Session.pingStatement]
  | answered {output : Path} {settings : Settings} {closingFailure : Option Failure}
    {rows : List Introspection.Row} :
    configured surroundings options = .ok (output, settings) →
      database.connect settings = .ok closingFailure → database.ping.rows = .ok rows →
        Contact [settings] (Session.unconnected.opened closingFailure)
          (Session.pingStatement :: (queries database options).map statementOf)

/-- What holds of the work of a run: it gets in contact with the database as far as its stages say,
its result is their verdict, and it changes no file if that is an error, nothing if it is dry, and
otherwise the file of the output. -/
structure Follows (work : Work) : Prop where
  contact : Contact database surroundings options work.opened work.session work.sent
  result : work.result =
    (verdict database surroundings options).map fun (output, schema, content) =>
      Generation.resultOf (requestOf options output) schema content
  unchanged : ∀ error, verdict database surroundings options = .error error →
    work.files.SameFiles surroundings.files
  dry : ∀ found, verdict database surroundings options = .ok found → options.isDryRun = true →
    work.files = surroundings.files
  changed : ∀ output schema content,
    verdict database surroundings options = .ok (output, schema, content) →
      options.isDryRun = false → FileSystem.OnlyWritten surroundings.files output
        (Text.Utf8.encode content) work.files

/-! ## Verdicts -/

variable {database surroundings options}

theorem configured_eq_ok_iff {output : Path} {settings : Settings} :
    configured surroundings options = .ok (output, settings) ↔
      outputPath surroundings.files.current options.output = .ok output ∧
        (findSettings surroundings options).1 = .ok settings := by
  simp only [configured, bind_eq_ok_iff]
  constructor
  · rintro ⟨_, houtput, _, hsettings, h⟩
    cases h
    exact ⟨houtput, hsettings⟩
  · rintro ⟨houtput, hsettings⟩
    exact ⟨output, houtput, settings, hsettings, rfl⟩

/-- **All stages succeed or one fails**: the verdict is no error just if all of them succeed. -/
theorem verdict_eq_ok_iff {output : Path} {schema : DatabaseSchema} {content : String} :
    verdict database surroundings options = .ok (output, schema, content) ↔
      ∃ settings, Succeeds database surroundings options output settings schema content := by
  simp only [verdict, generated, bind_eq_ok_iff, mapError_eq_ok_iff]
  constructor
  · rintro ⟨⟨_, settings⟩, hconfigured, closingFailure, hconnect, rows, hping, h⟩
    obtain ⟨⟨_, _⟩, hgenerated, h⟩ := h
    cases h
    obtain ⟨hschema, hcontent, hwritten⟩ := Generation.verdict_eq_ok_iff.mp hgenerated
    exact ⟨settings, hconfigured, ⟨closingFailure, hconnect⟩, ⟨rows, hping⟩, hschema, hcontent,
      Generation.written_eq_ok_iff.mp hwritten⟩
  · rintro ⟨settings, h⟩
    obtain ⟨closingFailure, hconnect⟩ := h.connects
    obtain ⟨rows, hping⟩ := h.answers
    have hwritten : Generation.written surroundings.files (requestOf options output) content
        = .ok () := Generation.written_eq_ok_iff.mpr h.writes
    have hgenerated := Generation.verdict_eq_ok_iff.mpr ⟨h.introspects, h.generates, hwritten⟩
    exact ⟨(output, settings), h.configured, closingFailure, hconnect, rows, hping,
      (schema, content), hgenerated, rfl⟩

/-! ## Work -/

section Work

variable {output : Path} {settings : Settings} {work : Work}

/-- A run that gets no further than its contact with the database follows its stages. -/
theorem follows_of_error {error : Error}
    (hcontact : Contact database surroundings options work.opened work.session work.sent)
    (hverdict : verdict database surroundings options = .error error)
    (hresult : work.result = .error error) (hfiles : work.files.SameFiles surroundings.files) :
    Follows database surroundings options work where
  contact := hcontact
  result := by
    rw [hverdict, hresult]
    rfl
  unchanged _ _ := hfiles
  dry _ h := by
    rw [hverdict] at h
    cases h
  changed _ _ _ h := by
    rw [hverdict] at h
    cases h

theorem verdict_of_not_configured {error : Error}
    (h : configured surroundings options = .error error) :
    verdict database surroundings options = .error error := by
  rw [verdict, h]
  rfl

theorem verdict_of_refused {failure : Failure}
    (h : configured surroundings options = .ok (output, settings))
    (hconnect : database.connect settings = .error failure) :
    verdict database surroundings options = .error (.database failure) := by
  rw [verdict, h]
  dsimp only [bind, Except.bind]
  rw [hconnect]
  rfl

theorem verdict_of_silent {closingFailure : Option Failure} {failure : Failure}
    (h : configured surroundings options = .ok (output, settings))
    (hconnect : database.connect settings = .ok closingFailure)
    (hping : database.ping.rows = .error failure) :
    verdict database surroundings options = .error (.database failure) := by
  rw [verdict, h]
  dsimp only [bind, Except.bind]
  rw [hconnect, hping]
  rfl

/-- Once the database has answered, the verdict is that of the generation. -/
theorem verdict_of_answered {closingFailure : Option Failure} {rows : List Introspection.Row}
    (h : configured surroundings options = .ok (output, settings))
    (hconnect : database.connect settings = .ok closingFailure)
    (hping : database.ping.rows = .ok rows) :
    verdict database surroundings options =
      (generated database surroundings options output).map fun found => (output, found) := by
  rw [verdict, h]
  dsimp only [bind, Except.bind]
  rw [hconnect, hping]
  cases generated database surroundings options output <;> rfl

/-- The generation of a run that the database has answered follows its stages. -/
theorem follows_of_generated {closingFailure : Option Failure} {rows : List Introspection.Row}
    (h : configured surroundings options = .ok (output, settings))
    (hconnect : database.connect settings = .ok closingFailure)
    (hping : database.ping.rows = .ok rows)
    (hcontact : Contact database surroundings options work.opened work.session work.sent)
    (hresult : work.result = (Generation.run database.executor surroundings.files
      (requestOf options output)).result.mapError .generation)
    (hfiles : work.files = (Generation.run database.executor surroundings.files
      (requestOf options output)).files) :
    Follows database surroundings options work := by
  have hfollows := Generation.follows_run database.executor surroundings.files
    (requestOf options output)
  have hverdict := verdict_of_answered h hconnect hping
  unfold generated at hverdict
  rw [hfollows.result] at hresult
  cases hgenerated : Generation.verdict database.executor surroundings.files
      (requestOf options output) with
  | error error =>
    rw [hgenerated] at hverdict hresult
    refine follows_of_error hcontact hverdict hresult ?_
    rw [hfiles]
    exact hfollows.unchanged error hgenerated
  | ok found =>
    rw [hgenerated] at hverdict hresult
    refine ⟨hcontact, ?_, fun _ herror => ?_, fun _ _ hdry => ?_, fun _ _ _ hok hdry => ?_⟩
    · rw [hverdict, hresult]
      rfl
    · rw [hverdict] at herror
      cases herror
    · rw [hfiles]
      exact hfollows.dry found hgenerated hdry
    · rw [hverdict] at hok
      cases hok
      rw [hfiles]
      exact hfollows.changed _ hgenerated hdry

/-- Work with settings that were found follows the stages of its run. -/
theorem follows_work (h : configured surroundings options = .ok (output, settings)) :
    Follows database surroundings options
      (Run.work database surroundings.files settings (requestOf options output)) := by
  have hsame := FileSystem.SameFiles.refl surroundings.files
  unfold Run.work
  cases hconnect : database.connect settings with
  | error failure =>
    rw [Session.connect_error]
    exact follows_of_error (.refused h hconnect) (verdict_of_refused h hconnect) rfl hsame
  | ok closingFailure =>
    rw [Session.connect_ok]
    dsimp only
    rw [Session.ping_opened]
    cases hping : database.ping.rows with
    | error failure =>
      exact follows_of_error (.silent h hconnect hping) (verdict_of_silent h hconnect hping) rfl
        hsame
    | ok rows =>
      have hqueries : (Generation.run database.executor surroundings.files
          (requestOf options output)).queries = queries database options :=
        Generation.queries_run _ _ _
      have hcontact := Contact.answered h hconnect hping
      rw [← hqueries] at hcontact
      exact follows_of_generated h hconnect hping hcontact rfl rfl

/-- Reports do not matter. -/
theorem Follows.withLog (h : Follows database surroundings options work) (log : List Log.Entry) :
    Follows database surroundings options { work with log } :=
  ⟨h.contact, h.result, h.unchanged, h.dry, h.changed⟩

end Work

/-- **The work of a run follows its stages.** -/
theorem follows_prepareAndWork (database : Database) (surroundings : Surroundings)
    (options : CommandLine.Options) :
    Follows database surroundings options (prepareAndWork database surroundings options) := by
  have hsame := FileSystem.SameFiles.refl surroundings.files
  unfold prepareAndWork
  dsimp only
  split
  · rename_i error houtput
    have h : configured surroundings options = .error error := by
      rw [configured, houtput]
      rfl
    exact follows_of_error (.none h) (verdict_of_not_configured h) rfl hsame
  · rename_i output houtput
    split
    · rename_i error log hsettings
      have h : configured surroundings options = .error error := by
        rw [configured, houtput]
        dsimp only [bind, Except.bind]
        rw [hsettings]
      exact follows_of_error (.none h) (verdict_of_not_configured h) rfl hsame
    · rename_i settings log hsettings
      have h : configured surroundings options = .ok (output, settings) :=
        configured_eq_ok_iff.mpr ⟨houtput, by rw [hsettings]⟩
      exact (follows_work h).withLog _

end Run
end SchemaTypes

import SchemaTypes.CommandLine
import SchemaTypes.Generation
import SchemaTypes.Session
import SchemaTypes.Settings.Source

/-!
# A run of the program

From arguments to an exit code. A run reads its options, finds and checks the settings, connects,
sees whether the connection answers, and generates. The first of these that fails is reported and
makes the exit code one. Whatever happened in between, the session is closed at the end; should
that fail with something else than a failure of the driver, the failure leaves the run and there
is no exit code.

The database is a parameter: it says how connecting ends, what it does with the trivial statement,
and what it answers to queries. Files, environment and arguments are parameters too, so a run is a
function and all that it does is in its outcome. Two kinds of text come from outside as well: what
the reader of settings says about a file that holds no document, and the account of the calls behind
an error. What other parts than those of this library report is not shown.
-/

namespace SchemaTypes
namespace Run

/-- Why a run fails. -/
inductive Error where
  /-- The output is no path but a value of some kind. -/
  | noPath (kind : String)
  | output (fault : FileFault)
  | loading (error : Settings.LoadError)
  | settings (error : Settings.Error)
  | database (failure : Failure)
  | generation (error : Generation.Error)

/-- The text of an error. -/
def Error.message : Error → String
  | .noPath kind => "unsupported operand type(s) for /: 'PosixPath' and '" ++ kind ++ "'"
  | .output fault => fault.message
  | .loading error => error.message
  | .settings error => error.message
  | .database failure => failure.message
  | .generation error => error.message

end Run

/-- The other side of a run. -/
structure Database where
  /-- What becomes of an attempt to connect: a failure, or a connection whose closing may fail. -/
  connect : Settings → Except Failure (Option Failure)
  /-- The reaction to the trivial statement. -/
  ping : Session.Reaction
  /-- The answers to queries. -/
  executor : Introspection.Executor

/-- What a run finds around it. -/
structure Surroundings where
  files : FileSystem
  environment : Environment
  /-- What is said about a file for settings that holds no document. -/
  diagnosis : Settings.Diagnosis
  /-- The account of the calls that led to an error. -/
  trace : Run.Error → String

namespace Run

/-- How a run ends: with an exit code, or with a failure that leaves it. -/
inductive Ending where
  | exit (code : Nat)
  | escaped (failure : Failure)
deriving Repr, DecidableEq

/-- What goes to the error output: a report, which is shown if it is important enough, or a line
that is always shown. A report may have the account of an error with it. -/
inductive Remark where
  | report (entry : Log.Entry)
  | traced (entry : Log.Entry) (trace : String)
  | line (text : String)
deriving Repr, DecidableEq

/-- The lowest rank of the reports that are shown. -/
def shownRank (isVerbose : Bool) : Nat :=
  if isVerbose then Log.Level.debug.rank else Log.Level.warning.rank

/-- The text of a remark, if it is shown. The account of an error begins on a line of its own. -/
def Remark.shown (isVerbose : Bool) : Remark → Option String
  | .report entry =>
    if shownRank isVerbose ≤ entry.level.rank then some entry.line else none
  | .traced entry trace =>
    if shownRank isVerbose ≤ entry.level.rank then
      some (entry.line ++ if trace.isEmpty then "" else "\n" ++ trace)
    else none
  | .line text => some text

/-- The text of remarks on the error output. -/
def transcript (isVerbose : Bool) (remarks : List Remark) : String :=
  String.join ((remarks.filterMap (·.shown isVerbose)).map (· ++ "\n"))

/-- The remarks for reports. -/
def remarksOf (log : List Log.Entry) : List Remark :=
  log.map .report

/-- What a run leaves behind. -/
structure Outcome where
  ending : Ending
  output : String
  errorOutput : String
  files : FileSystem
  session : Session
  /-- The settings with which connecting was tried. -/
  opened : List Settings
  /-- The statements that reached the database. -/
  sent : List Session.Statement

/-! ## Settings -/

/-- The entries that options write over the map of settings. -/
def overrides (options : CommandLine.Options) : List (String × Value) :=
  [("host", options.host), ("port", options.port), ("user", options.user),
    ("password", options.password), ("database", options.database)].filterMap
    fun (name, value) => value.map (name, ·)

/-- The settings of a run, and the reports about their source. -/
def findSettings (surroundings : Surroundings) (options : CommandLine.Options) :
    Except Error Settings × List Log.Entry :=
  let requested := options.connFile.bind Value.text?
  let loaded :=
    Settings.load surroundings.diagnosis surroundings.files surroundings.environment requested
  match loaded.result with
  | .error error => (.error (.loading error), loaded.log)
  | .ok entries =>
    ((Settings.ofEntries (Settings.overlay entries (overrides options))).mapError .settings,
      loaded.log)

/-! ## Work -/

/-- What a run does before it closes its session. -/
structure Work where
  result : Except Error Generation.Result
  session : Session
  files : FileSystem
  log : List Log.Entry
  opened : List Settings
  sent : List Session.Statement

/-- The statement of a query. -/
def statementOf (query : Introspection.Query) : Session.Statement :=
  ⟨query.stage.sql, query.parameters⟩

/-- The report that the connection answers. -/
def readyReport : Log.Entry :=
  ⟨.info, .commandLine, "Database connection successful"⟩

/-- Connects, sees whether the connection answers, and generates. -/
def work (database : Database) (files : FileSystem) (settings : Settings)
    (request : Generation.Request) : Work :=
  let connected := Session.unconnected.connect settings (database.connect settings)
  match connected.result with
  | .error failure =>
    ⟨.error (.database failure), connected.session, files, connected.log, connected.opened, []⟩
  | .ok _ =>
    let pinged := connected.session.ping database.ping
    let log := connected.log ++ pinged.log
    match pinged.result with
    | .error failure =>
      ⟨.error (.database failure), pinged.session, files, log, connected.opened, pinged.sent⟩
    | .ok _ =>
      let generated := Generation.run database.executor files request
      { result := generated.result.mapError .generation
        session := pinged.session
        files := generated.files
        log := log ++ readyReport :: generated.log
        opened := connected.opened
        sent := pinged.sent ++ generated.queries.map statementOf }

/-- The path of the output of a run, in a current directory. -/
def outputPath (current : Place) (output : Value) : Except Error Path :=
  match output with
  | .text s =>
    let path := Path.ofText s
    if path.hasNull then .error (.output ⟨.nullCharacter, path.text⟩)
    else .ok (path.resolve current)
  | value => .error (.noPath value.kindName)

/-- Finds the settings and works with them. -/
def prepareAndWork (database : Database) (surroundings : Surroundings)
    (options : CommandLine.Options) : Work :=
  let files := surroundings.files
  match outputPath files.current options.output with
  | .error error => ⟨.error error, .unconnected, files, [], [], []⟩
  | .ok output =>
    match findSettings surroundings options with
    | (.error error, log) => ⟨.error error, .unconnected, files, log, [], []⟩
    | (.ok settings, log) =>
      let request : Generation.Request := ⟨output, options.schema, options.isDryRun⟩
      let work := work database files settings request
      { work with log := log ++ work.log }

/-! ## The whole run -/

/-- The exit code that a result asks for. -/
def codeOf : Except Error Generation.Result → Nat
  | .ok _ => 0
  | .error _ => 1

/-- What a result writes to the standard output: the text itself in a dry run, and otherwise where
it was written. -/
def outputOf : Except Error Generation.Result → String
  | .error _ => ""
  | .ok result =>
    if result.isWritten then "Types generated successfully at " ++ result.output.text ++ "\n"
    else result.content

/-- The report that a run has failed. -/
def failedReport : Log.Entry :=
  ⟨.debug, .commandLine, "Generation failed"⟩

/-- What is remarked about a result. -/
def remarksOn (trace : Error → String) : Except Error Generation.Result → List Remark
  | .error error => [.line ("Error: " ++ error.message), .traced failedReport (trace error)]
  | .ok result =>
    if result.isWritten then [] else [.line "Dry run completed. No files were written."]

/-- The ending of a run whose result would be an exit code, after its session was closed. -/
def endingOf (code : Nat) (closed : Session.Outcome) : Ending :=
  match closed.result with
  | .ok _ => .exit code
  | .error failure => .escaped failure

/-- A run with the given options. -/
def withOptions (database : Database) (surroundings : Surroundings)
    (options : CommandLine.Options) : Outcome :=
  let work := prepareAndWork database surroundings options
  let closed := work.session.close
  { ending := endingOf (codeOf work.result) closed
    output := outputOf work.result
    errorOutput := transcript options.isVerbose
      (remarksOf work.log ++ remarksOn surroundings.trace work.result ++ remarksOf closed.log)
    files := work.files
    session := closed.session
    opened := work.opened
    sent := work.sent }

end Run

open Run in
/-- A run of the program with the given arguments. -/
def run (database : Database) (surroundings : Surroundings) (arguments : List String) :
    Run.Outcome :=
  match CommandLine.parse arguments with
  | .ok options => withOptions database surroundings options
  | .error stop =>
    let columns := surroundings.environment.columns
    ⟨.exit stop.exitCode, stop.output columns, stop.report columns, surroundings.files,
      .unconnected, [], []⟩

end SchemaTypes

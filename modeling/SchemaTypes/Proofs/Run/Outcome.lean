import SchemaTypes.Proofs.Run.Failing

/-!
# The outcome of a run

What can be said of every run whose arguments are accepted, whatever files, environment and
database it meets (`Lawful`). It connects once at most, and to nothing that was not found to be
valid settings; it asks the catalogue only when the database has answered; a connection that was
opened is closed, and that once. The exit code, the two outputs and the files all tell the same
story: zero with the text or the line for it, and only the file of the output changed, or one with
what is to be said of the first stage that failed (`Fails`), and no file changed. One of the two is
the case, and not both.

One thing can spoil the exit code, and nothing else. If closing the connection fails with something
that is no failure of the driver, that failure leaves the run in place of the code; outputs and
files are as they would have been.
-/

namespace SchemaTypes

/-- Closing the connections of a session fails, if at all, with failures of the driver. -/
def Session.ClosesQuietly (session : Session) : Prop :=
  ∀ connection ∈ session.connections, ∀ failure, connection.closingFailure = some failure →
    failure.kind.isDriverError = true

namespace Run

/-- The connection to which settings lead, if they lead to one, after it was closed once. -/
def closedOnce (database : Database) (settings : Settings) : Option Connection :=
  (database.connect settings).toOption.map fun closingFailure => ⟨closingFailure, 1⟩

section Laws

variable (database : Database) (surroundings : Surroundings) (options : CommandLine.Options)

/-- An outcome that shows the text of an error, and nothing else has changed. The text stands on a
line between reports, the first one behind it with the account of the error. -/
structure Reported (text : String) (outcome : Outcome) : Prop where
  output : outcome.output = ""
  errorOutput : ∃ (before after : List Log.Entry) (trace : String), outcome.errorOutput =
    transcript options.isVerbose (remarksOf before) ++ ("Error: " ++ text ++ "\n")
      ++ transcript options.isVerbose (.traced failedReport trace :: remarksOf after)
  files : outcome.files.SameFiles surroundings.files

/-- An outcome that shows the text and changes nothing, or that changes the file of the output to
hold the text, and says so. -/
structure Delivered (output : Path) (content : String) (outcome : Outcome) : Prop where
  dry : options.isDryRun = true → outcome.output = content ∧ outcome.files = surroundings.files
  changed : options.isDryRun = false →
    outcome.output = "Types generated successfully at " ++ output.text ++ "\n" ∧
      FileSystem.OnlyWritten surroundings.files output (Text.Utf8.encode content) outcome.files

/-- What holds of the outcome of every run with the given options. -/
structure Lawful (outcome : Outcome) : Prop where
  /-- Connecting is tried once if there are valid settings, with these, and otherwise never. -/
  opened : (∃ output settings,
      configured surroundings options = .ok (output, settings) ∧ outcome.opened = [settings]) ∨
    (∃ error, configured surroundings options = .error error) ∧ outcome.opened = []
  /-- Without a connection nothing is sent, and with one the trivial statement. Queries are sent
  behind it, if it was answered. -/
  sent : outcome.session.connections = [] ∧ outcome.sent = [] ∨
    (∃ failure, database.ping.rows = .error failure) ∧ outcome.sent = [Session.pingStatement] ∨
    (∃ rows, database.ping.rows = .ok rows) ∧
      outcome.sent = Session.pingStatement :: (queries database options).map statementOf
  /-- A connection that was opened is closed, once. -/
  closed : outcome.session.current = none ∧
    outcome.session.connections = outcome.opened.filterMap (closedOnce database)
  success : ∀ output settings schema content,
    Succeeds database surroundings options output settings schema content →
      Delivered surroundings options output content outcome
  /-- A stage that fails is reported, with what is to be said of it. -/
  failure : ∀ text, Fails database surroundings options text →
    Reported surroundings options text outcome
  /-- A stage fails just if not all of them succeed. -/
  decided : (∃ text, Fails database surroundings options text) ↔
    ¬ ∃ output settings schema content,
      Succeeds database surroundings options output settings schema content
  /-- The exit code is zero if all stages succeed, and otherwise one. -/
  code : outcome.session.ClosesQuietly →
    (outcome.ending = .exit 0 ↔ ∃ output settings schema content,
      Succeeds database surroundings options output settings schema content) ∧
    (outcome.ending = .exit 1 ↔ ¬ ∃ output settings schema content,
      Succeeds database surroundings options output settings schema content)
  /-- A failure to close that is none of the driver leaves the run. -/
  escaped : ∀ connection ∈ outcome.session.connections, ∀ failure,
    connection.closingFailure = some failure → failure.kind.isDriverError = false →
      outcome.ending = .escaped failure

end Laws

variable {database : Database} {surroundings : Surroundings} {options : CommandLine.Options}

/-! ## Closing -/

section Contacts

variable {opened : List Settings} {session : Session} {sent : List Session.Statement}

theorem opened_of_contact (h : Contact database surroundings options opened session sent) :
    (∃ output settings,
      configured surroundings options = .ok (output, settings) ∧ opened = [settings]) ∨
    (∃ error, configured surroundings options = .error error) ∧ opened = [] := by
  cases h with
  | none herror => exact .inr ⟨⟨_, herror⟩, rfl⟩
  | refused hconfigured => exact .inl ⟨_, _, hconfigured, rfl⟩
  | silent hconfigured => exact .inl ⟨_, _, hconfigured, rfl⟩
  | answered hconfigured => exact .inl ⟨_, _, hconfigured, rfl⟩

theorem sent_of_contact (h : Contact database surroundings options opened session sent) :
    session.close.session.connections = [] ∧ sent = [] ∨
    (∃ failure, database.ping.rows = .error failure) ∧ sent = [Session.pingStatement] ∨
    (∃ rows, database.ping.rows = .ok rows) ∧
      sent = Session.pingStatement :: (queries database options).map statementOf := by
  cases h with
  | none => exact .inl ⟨rfl, rfl⟩
  | refused => exact .inl ⟨rfl, rfl⟩
  | silent _ _ hping => exact .inr (.inl ⟨⟨_, hping⟩, rfl⟩)
  | answered _ _ hping => exact .inr (.inr ⟨⟨_, hping⟩, rfl⟩)

theorem closedOnce_of_ok {settings : Settings} {closingFailure : Option Failure}
    (h : database.connect settings = .ok closingFailure) :
    [settings].filterMap (closedOnce database) = [⟨closingFailure, 1⟩] := by
  rw [List.filterMap_cons, closedOnce, h]
  rfl

theorem closedOnce_of_error {settings : Settings} {failure : Failure}
    (h : database.connect settings = .error failure) :
    [settings].filterMap (closedOnce database) = [] := by
  rw [List.filterMap_cons, closedOnce, h]
  rfl

/-- The session of a run has no connection, or one that was just opened. -/
theorem session_of_contact (h : Contact database surroundings options opened session sent) :
    session = .unconnected ∧ opened.filterMap (closedOnce database) = [] ∨
      ∃ closingFailure, session = Session.unconnected.opened closingFailure ∧
        opened.filterMap (closedOnce database) = [⟨closingFailure, 1⟩] := by
  cases h with
  | none => exact .inl ⟨rfl, rfl⟩
  | refused _ hconnect => exact .inl ⟨rfl, closedOnce_of_error hconnect⟩
  | silent _ hconnect _ => exact .inr ⟨_, rfl, closedOnce_of_ok hconnect⟩
  | answered _ hconnect _ => exact .inr ⟨_, rfl, closedOnce_of_ok hconnect⟩

theorem closed_of_contact (h : Contact database surroundings options opened session sent) :
    session.close.session.current = none ∧
      session.close.session.connections = opened.filterMap (closedOnce database) := by
  rcases session_of_contact h with ⟨rfl, hopened⟩ | ⟨closingFailure, rfl, hopened⟩
  · rw [hopened]
    exact ⟨rfl, rfl⟩
  · rw [hopened]
    exact ⟨rfl, rfl⟩

/-- Closing a connection that was just opened keeps an exit code unless it fails with something
that is no failure of the driver. -/
theorem endingOf_close_opened (code : Nat) (closingFailure : Option Failure) :
    endingOf code (Session.unconnected.opened closingFailure).close =
      match closingFailure with
      | none => .exit code
      | some failure => if failure.kind.isDriverError then .exit code else .escaped failure := by
  have hresult : (Session.unconnected.opened closingFailure).close.result =
      (Session.closing ⟨closingFailure, 0⟩).1.map fun _ => none := rfl
  rw [endingOf, hresult]
  unfold Session.closing
  cases closingFailure with
  | none => rfl
  | some failure =>
    dsimp only
    by_cases hdriver : failure.kind.isDriverError
    · rw [if_pos hdriver, if_pos hdriver]
      rfl
    · rw [if_neg hdriver, if_neg hdriver]
      rfl

/-- Closing the session of a run keeps the exit code, or lets a failure escape. -/
theorem ending_of_contact (h : Contact database surroundings options opened session sent)
    (code : Nat) :
    (session.close.session.ClosesQuietly → endingOf code session.close = .exit code) ∧
      ∀ connection ∈ session.close.session.connections, ∀ failure,
        connection.closingFailure = some failure → failure.kind.isDriverError = false →
          endingOf code session.close = .escaped failure := by
  rcases session_of_contact h with ⟨rfl, -⟩ | ⟨closingFailure, rfl, -⟩
  · exact ⟨fun _ => rfl, nofun⟩
  · rw [endingOf_close_opened]
    have hconnections : (Session.unconnected.opened closingFailure).close.session.connections =
        [⟨closingFailure, 1⟩] := rfl
    refine ⟨fun hquiet => ?_, fun connection hconnection failure hfailure hdriver => ?_⟩
    · cases closingFailure with
      | none => rfl
      | some failure =>
        have hdriver := hquiet ⟨some failure, 1⟩ (List.mem_singleton_self _) failure rfl
        exact if_pos hdriver
    · rw [hconnections, List.mem_singleton] at hconnection
      rw [hconnection] at hfailure
      obtain rfl : closingFailure = some failure := hfailure
      exact if_neg (Bool.eq_false_iff.mp hdriver)

end Contacts

/-! ## Outputs -/

theorem transcript_append (isVerbose : Bool) (remarks others : List Remark) :
    transcript isVerbose (remarks ++ others)
      = transcript isVerbose remarks ++ transcript isVerbose others := by
  unfold transcript
  rw [List.filterMap_append, List.map_append, String.join_append]

/-- A line is always shown. -/
theorem transcript_line (isVerbose : Bool) (text : String) :
    transcript isVerbose [.line text] = text ++ "\n" := by
  show String.join [text ++ "\n"] = _
  rw [String.join_cons, String.join_nil, String.append_empty]

/-- The remarks on an error are its line and one more report. -/
theorem transcript_remarksOn_error (isVerbose : Bool) (trace : Error → String) (error : Error)
    (before after : List Log.Entry) :
    transcript isVerbose (remarksOf before ++ remarksOn trace (.error error) ++ remarksOf after) =
      transcript isVerbose (remarksOf before) ++ ("Error: " ++ error.message ++ "\n")
        ++ transcript isVerbose (.traced failedReport (trace error) :: remarksOf after) := by
  have hremarks : remarksOn trace (.error error) ++ remarksOf after =
      [.line ("Error: " ++ error.message)]
        ++ (.traced failedReport (trace error) :: remarksOf after) := rfl
  rw [List.append_assoc, hremarks, transcript_append, transcript_append, transcript_line,
    ← String.append_assoc]

/-- The output of a run that succeeds is the text, or the line that says where it is. -/
theorem outputOf_resultOf (output : Path) (schema : DatabaseSchema) (content : String) :
    outputOf (.ok (Generation.resultOf (requestOf options output) schema content)) =
      if options.isDryRun then content
      else "Types generated successfully at " ++ output.text ++ "\n" := by
  unfold outputOf Generation.resultOf requestOf
  cases options.isDryRun <;> rfl

/-! ## Whole runs -/

/-- A stage fails, or all of them succeed. -/
theorem fails_iff_not_succeeds :
    (∃ text, Fails database surroundings options text) ↔
      ¬ ∃ output settings schema content,
        Succeeds database surroundings options output settings schema content := by
  simp only [fails_iff]
  constructor
  · rintro ⟨_, error, hverdict, -⟩ ⟨output, settings, schema, content, hsucceeds⟩
    cases hverdict.symm.trans (verdict_eq_ok_iff.mpr ⟨settings, hsucceeds⟩)
  · intro hfails
    cases hverdict : verdict database surroundings options with
    | error error => exact ⟨_, error, rfl, rfl⟩
    | ok found =>
      obtain ⟨output, schema, content⟩ := found
      obtain ⟨settings, hsucceeds⟩ := verdict_eq_ok_iff.mp hverdict
      exact absurd ⟨output, settings, schema, content, hsucceeds⟩ hfails

theorem reported_withOptions {text : String} (h : Fails database surroundings options text) :
    Reported surroundings options text (withOptions database surroundings options) := by
  obtain ⟨error, hverdict, rfl⟩ := fails_iff.mp h
  have hfollows := follows_prepareAndWork database surroundings options
  have hresult := hfollows.result
  rw [hverdict] at hresult
  refine ⟨?_, ?_, hfollows.unchanged error hverdict⟩
  · rw [withOptions, hresult]
    rfl
  · rw [withOptions, hresult]
    exact ⟨_, _, _, transcript_remarksOn_error _ _ _ _ _⟩

theorem delivered_withOptions {output : Path} {schema : DatabaseSchema} {content : String}
    (hverdict : verdict database surroundings options = .ok (output, schema, content)) :
    Delivered surroundings options output content (withOptions database surroundings options) := by
  have hfollows := follows_prepareAndWork database surroundings options
  have hresult := hfollows.result
  rw [hverdict] at hresult
  refine ⟨fun hdry => ⟨?_, hfollows.dry _ hverdict hdry⟩,
    fun hdry => ⟨?_, hfollows.changed _ _ _ hverdict hdry⟩⟩
  · rw [withOptions, hresult]
    exact (outputOf_resultOf output schema content).trans (if_pos hdry)
  · rw [withOptions, hresult]
    exact (outputOf_resultOf output schema content).trans (if_neg (Bool.eq_false_iff.mp hdry))

/-- The exit code of a run that lets no failure escape is zero if all stages succeed, and otherwise
one. -/
theorem code_withOptions
    (hquiet : (withOptions database surroundings options).session.ClosesQuietly) :
    ((withOptions database surroundings options).ending = .exit 0 ↔
      ∃ output settings schema content,
        Succeeds database surroundings options output settings schema content) ∧
    ((withOptions database surroundings options).ending = .exit 1 ↔
      ¬ ∃ output settings schema content,
        Succeeds database surroundings options output settings schema content) := by
  have hfollows := follows_prepareAndWork database surroundings options
  have hending := (ending_of_contact hfollows.contact
    (codeOf (prepareAndWork database surroundings options).result)).1 hquiet
  rw [withOptions, hending, hfollows.result]
  cases hverdict : verdict database surroundings options with
  | error error =>
    have hfails := fails_iff_not_succeeds.mp ⟨_, fails_iff.mpr ⟨error, hverdict, rfl⟩⟩
    exact ⟨iff_of_false nofun hfails, iff_of_true rfl hfails⟩
  | ok found =>
    obtain ⟨output, schema, content⟩ := found
    obtain ⟨settings, hsucceeds⟩ := verdict_eq_ok_iff.mp hverdict
    have hexists : ∃ output settings schema content,
        Succeeds database surroundings options output settings schema content :=
      ⟨output, settings, schema, content, hsucceeds⟩
    exact ⟨iff_of_true rfl hexists, iff_of_false nofun (not_not_intro hexists)⟩

theorem lawful_withOptions (database : Database) (surroundings : Surroundings)
    (options : CommandLine.Options) :
    Lawful database surroundings options (withOptions database surroundings options) := by
  have hcontact := (follows_prepareAndWork database surroundings options).contact
  exact {
    opened := opened_of_contact hcontact
    sent := sent_of_contact hcontact
    closed := closed_of_contact hcontact
    success := fun output settings schema content hsucceeds =>
      delivered_withOptions (verdict_eq_ok_iff.mpr ⟨settings, hsucceeds⟩)
    failure := fun _ => reported_withOptions
    decided := fails_iff_not_succeeds
    code := code_withOptions
    escaped := (ending_of_contact hcontact _).2 }

/-- **Every run is lawful.** Whatever files, environment and database a run meets, if its arguments
are accepted then its exit code, its outputs, its files and what the database sees of it agree with
each other, and with the first stage that fails or the success of all. -/
theorem lawful_run {arguments : List String} {options : CommandLine.Options}
    (h : CommandLine.parse arguments = .ok options) (database : Database)
    (surroundings : Surroundings) :
    Lawful database surroundings options (run database surroundings arguments) := by
  rw [run, h]
  exact lawful_withOptions database surroundings options

/-- A database without tables and enum types, which reacts somehow to the trivial statement, and
whose connections fail to close. -/
def emptyDatabase (ping : Session.Reaction) : Database where
  connect _ := .ok (some ⟨.operational, "lost"⟩)
  ping
  executor _ _ := .ok []

/-- No files but the current directory, and no variables. -/
def emptySurroundings : Surroundings where
  files := { entries := [(["w"], .directory)], current := ["w"] }
  environment := ⟨[], "/"⟩
  diagnosis _ _ := ""
  trace _ := ""

/-- The options of a dry run with a password and the name of a database. -/
def dryOptions : CommandLine.Options :=
  { CommandLine.Options.defaults with
    isDryRun := true
    password := some (.text "p")
    database := some (.text "d") }

/-- What is connected with in a run that gives no more than these options. -/
def dryConfigured : Path × Settings :=
  (⟨1, ["w", "types", "db.ts"]⟩, ⟨"localhost", 5432, "postgres", "p", "d"⟩)

/-- Two dry runs whose connection fails to close: the database answers the one, and nothing is
heard of it in the other. -/
theorem lawful_run_dry :
    CommandLine.parse ["--dry-run", "--password", "p", "-d", "d"] = .ok dryOptions ∧
      Lawful (emptyDatabase (.answers [])) emptySurroundings dryOptions
        (run (emptyDatabase (.answers [])) emptySurroundings
          ["--dry-run", "--password", "p", "-d", "d"]) ∧
      Reported emptySurroundings dryOptions "no answer"
        (run (emptyDatabase (.fails ⟨.operational, "no answer"⟩)) emptySurroundings
          ["--dry-run", "--password", "p", "-d", "d"]) := by
  have h : CommandLine.parse ["--dry-run", "--password", "p", "-d", "d"] = .ok dryOptions := by
    cbv
  have hconfigured : configured emptySurroundings dryOptions = .ok dryConfigured := by
    rfl
  have hconnect : (emptyDatabase (.fails ⟨.operational, "no answer"⟩)).connect dryConfigured.2 =
      .ok (some ⟨.operational, "lost"⟩) := rfl
  have hping : (emptyDatabase (.fails ⟨.operational, "no answer"⟩)).ping.rows =
      .error ⟨.operational, "no answer"⟩ := rfl
  have hfails := Fails.ping hconfigured hconnect hping
  exact ⟨h, lawful_run h _ _, (lawful_run h _ _).failure _ hfails⟩

end Run
end SchemaTypes

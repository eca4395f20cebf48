import SchemaTypes.Introspection.Query
import SchemaTypes.Log
import SchemaTypes.Settings

/-!
# Sessions

A session talks to a database over one connection at a time. It can connect, send a statement,
check with a trivial statement that the connection answers, and close. What the database does in
reply is not decided here: every step comes with its reaction, and a step says how the session
changes, what the caller gets, and which statements reached a cursor of which connection.

A session remembers every connection that was opened and how often each was closed. Connecting
puts the new connection in place of the current one, which is not closed by that. Closing is given
up only when the driver's own failures occur, and in any case there is no current connection
afterwards.
-/

namespace SchemaTypes

/-- A connection that was opened: what its closing fails with, if it fails, and how often it was
closed. -/
structure Connection where
  closingFailure : Option Failure
  closes : Nat
deriving Repr, DecidableEq

/-- A session: the connections opened so far, and which of them is the current one. -/
structure Session where
  connections : List Connection
  current : Option Nat
deriving Repr, DecidableEq

namespace Session

/-- A session that has not connected yet. -/
def unconnected : Session := ⟨[], none⟩

/-- What the database does with a statement. -/
inductive Reaction where
  | fails (failure : Failure)
  | hasNoResult
  | answers (rows : List Introspection.Row)
deriving Repr

/-- What a connection does when it is handed a statement: it gives no cursor for it, or the
statement reaches a cursor and the database reacts. -/
inductive Reply where
  | noCursor (failure : Failure)
  | cursor (reaction : Reaction)
deriving Repr

instance : Coe Reaction Reply := ⟨.cursor⟩

/-- A statement with its parameters. -/
structure Statement where
  sql : String
  parameters : List Value
deriving Repr

/-- A statement that reached a cursor, and the connection to which the cursor belongs. -/
structure Sending where
  connection : Nat
  statement : Statement
deriving Repr

/-- The statement that only asks for an answer. -/
def pingStatement : Statement := ⟨"SELECT 1", []⟩

/-- A step of a session, with the reaction of the database to it. -/
inductive Step where
  /-- Connects. The reaction is a failure, or a connection whose closing may fail. -/
  | connect (settings : Settings) (reaction : Except Failure (Option Failure))
  | execute (statement : Statement) (reply : Reply)
  | ping (reply : Reply)
  | close

/-- What a step leaves behind: the session, what the caller gets, what was reported, the
statements that reached a cursor, and the settings with which a connection was tried. -/
structure Outcome where
  session : Session
  result : Except Failure (Option (List Introspection.Row))
  log : List Log.Entry
  sendings : List Sending
  opened : List Settings

/-- The statements that reached a cursor. -/
def Outcome.sent (outcome : Outcome) : List Statement :=
  outcome.sendings.map (·.statement)

/-- A report of the session. -/
def report (level : Log.Level) (text : String) : Log.Entry :=
  ⟨level, .session, text⟩

/-- The failure of a statement without a connection. -/
def notConnected : Failure :=
  ⟨.executor, "Not connected to PostgreSQL. Call connect() first."⟩

/-- The report of a connection. -/
def connectedReport (settings : Settings) : Log.Entry :=
  report .info ("Connected to PostgreSQL at " ++ settings.host ++ ":" ++ toString settings.port
    ++ "/" ++ settings.database)

/-- Connects. -/
def connect (session : Session) (settings : Settings)
    (reaction : Except Failure (Option Failure)) : Outcome :=
  match reaction with
  | .error failure => ⟨session, .error failure, [], [], [settings]⟩
  | .ok closingFailure =>
    { session :=
        { connections := session.connections ++ [⟨closingFailure, 0⟩]
          current := some session.connections.length }
      result := .ok none
      log := [connectedReport settings]
      sendings := []
      opened := [settings] }

/-- The rows that a reaction brings; none if there is no result. -/
def Reaction.rows : Reaction → Except Failure (List Introspection.Row)
  | .fails failure => .error failure
  | .hasNoResult => .ok []
  | .answers rows => .ok rows

/-- Sends a statement over the current connection. -/
def execute (session : Session) (statement : Statement) (reply : Reply) : Outcome :=
  match session.current, reply with
  | none, _ => ⟨session, .error notConnected, [], [], []⟩
  | some _, .noCursor failure => ⟨session, .error failure, [], [], []⟩
  | some index, .cursor reaction =>
    ⟨session, reaction.rows.map some, [], [⟨index, statement⟩], []⟩

/-- Checks that the current connection answers. -/
def ping (session : Session) (reply : Reply) : Outcome :=
  let outcome := session.execute pingStatement reply
  { outcome with result := outcome.result.map fun _ => none }

/-- Counts one more closing of a connection. -/
def countClose (connection : Connection) : Connection :=
  { connection with closes := connection.closes + 1 }

/-- What closing a connection comes to: a failure of the driver is reported and forgiven, and any
other is handed on. -/
def closing (connection : Connection) : Except Failure Unit × List Log.Entry :=
  match connection.closingFailure with
  | none => (.ok (), [report .info "Closed PostgreSQL connection"])
  | some failure =>
    if failure.kind.isDriverError then
      (.ok (), [report .warning ("Error closing connection: " ++ failure.message)])
    else (.error failure, [])

/-- Closes the current connection, if there is one. -/
def close (session : Session) : Outcome :=
  match session.current with
  | none => ⟨session, .ok none, [], [], []⟩
  | some index =>
    let (result, log) := ((session.connections[index]?).map closing).getD (.ok (), [])
    { session :=
        { connections := session.connections.modify index countClose
          current := none }
      result := result.map fun _ => none
      log
      sendings := []
      opened := [] }

/-- Takes a step. -/
def step (session : Session) : Step → Outcome
  | .connect settings reaction => session.connect settings reaction
  | .execute statement reply => session.execute statement reply
  | .ping reply => session.ping reply
  | .close => session.close

/-- The session after some steps. -/
def after (session : Session) (steps : List Step) : Session :=
  steps.foldl (fun session step => (session.step step).session) session

end Session
end SchemaTypes

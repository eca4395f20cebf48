import SchemaTypes.Validation.SchemaRecords

/-!
# Connection settings

What it takes to connect to a database: host, port, user, password and the name of the database.
Settings come from a map whose values may be anything, as the files that people write hold
anything, so they are checked before they are used. The four texts have to be there and must not
be empty; the port may be left out, and otherwise has to be an integer that is the number of a
port.

A text that is absent or empty is reported as missing, all missing ones at once. Only a map in
which none is missing is looked at more closely, and then every field that is wrong is reported.
-/

namespace SchemaTypes

/-- Connection settings. -/
structure Settings where
  host : String
  port : Int
  user : String
  password : String
  database : String
deriving Repr, DecidableEq

namespace Settings

/-- The fields in their order. -/
def fieldNames : List String := ["host", "port", "user", "password", "database"]

/-- The fields without which there are no settings. -/
def requiredNames : List String := ["host", "user", "password", "database"]

/-- The port of a server that does not say otherwise. -/
def defaultPort : Int := 5432

/-- A port: an integer from 1 to 65535. -/
def checkPort (value : Value) : Checked Int :=
  match Check.integer value with
  | .valid n => if 0 < n ∧ n < 65536 then .valid n else .fail .portRange
  | .invalid issues => .invalid issues

/-- Checks the fields of connection settings. -/
def check (entries : List (Value × Value)) : Checked Settings :=
  Settings.mk <$> Check.required entries "host" Check.nonEmptyText
    <*> Check.withDefault entries "port" defaultPort checkPort
    <*> Check.required entries "user" Check.nonEmptyText
    <*> Check.required entries "password" Check.nonEmptyText
    <*> Check.required entries "database" Check.nonEmptyText

/-- The map that describes connection settings. -/
def toValue (settings : Settings) : Value :=
  .ofFields [("host", .text settings.host), ("port", .int settings.port),
    ("user", .text settings.user), ("password", .text settings.password),
    ("database", .text settings.database)]

/-- Why a map holds no connection settings. -/
inductive Error where
  | missing (names : List String)
  | invalid (issues : List Issue)
deriving Repr, DecidableEq

/-- An issue on one line: the way to it and what is wrong. -/
def issueLine (issue : Issue) : String :=
  ".".intercalate (issue.location.map (·.text)) ++ ": " ++ issue.problem.message

/-- The text of an error. -/
def Error.message : Error → String
  | .missing names =>
    "Missing required connection parameters: " ++ ", ".intercalate names
      ++ ". Provide via --conn-file, ~/.pgtsgen/postgres.yaml or DB_* environment variables"
  | .invalid issues =>
    "Database configuration validation failed:\n" ++ "\n".intercalate (issues.map issueLine)

/-- The required fields that are absent or empty. -/
def missingNames (entries : List (Value × Value)) : List String :=
  requiredNames.filter fun name => (Value.field? entries name).all (·.isEmpty)

/-- The connection settings that a map holds. -/
def ofEntries (entries : List (Value × Value)) : Except Error Settings :=
  match missingNames entries with
  | name :: names => .error (.missing (name :: names))
  | [] => (check entries).toExcept.mapError .invalid

end Settings
end SchemaTypes

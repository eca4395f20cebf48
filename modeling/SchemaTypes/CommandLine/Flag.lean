/-!
# Flags

The flags of the command line with their spellings. A flag has a long spelling and may have a
short one of one letter; it takes a value or it does not. Texts about the command line have a word
that stands for the value, and an explanation of the flag.
-/

namespace SchemaTypes
namespace CommandLine

/-- The flags. -/
inductive Flag where
  | help
  | output
  | schema
  | dryRun
  | host
  | port
  | user
  | password
  | database
  | connFile
  | verbose
deriving Repr, DecidableEq

namespace Flag

/-- All flags, in the order in which they are listed. -/
def all : List Flag :=
  [.help, .output, .schema, .dryRun, .host, .port, .user, .password, .database, .connFile, .verbose]

/-- The letter of the short spelling. -/
def letter? : Flag → Option Char
  | .help => some 'h'
  | .output => some 'o'
  | .schema => some 's'
  | .host => some 'H'
  | .port => some 'p'
  | .user => some 'u'
  | .database => some 'd'
  | .verbose => some 'v'
  | .dryRun | .password | .connFile => none

/-- The long spelling. -/
def long : Flag → String
  | .help => "--help"
  | .output => "--output"
  | .schema => "--schema"
  | .dryRun => "--dry-run"
  | .host => "--host"
  | .port => "--port"
  | .user => "--user"
  | .password => "--password"
  | .database => "--database"
  | .connFile => "--conn-file"
  | .verbose => "--verbose"

/-- The word for the value of a flag, if the flag takes one. -/
def placeholder? : Flag → Option String
  | .output => some "OUTPUT"
  | .schema => some "SCHEMA"
  | .host => some "HOST"
  | .port => some "PORT"
  | .user => some "USER"
  | .password => some "PASSWORD"
  | .database => some "DATABASE"
  | .connFile => some "CONN_FILE"
  | .help | .dryRun | .verbose => none

/-- Whether a flag takes a value. -/
def takesValue (flag : Flag) : Bool :=
  flag.placeholder?.isSome

/-- What a flag means. -/
def explanation : Flag → String
  | .help => "show this help message and exit"
  | .output => "Output file path (default: ./types/db.ts)"
  | .schema => "Database schema to introspect (default: public)"
  | .dryRun => "Print what would be generated without writing to file"
  | .host => "Database host (default: DB_HOST or localhost)"
  | .port => "Database port (default: DB_PORT or 5432)"
  | .user => "Database user (default: DB_USER or postgres)"
  | .password => "Database password (default: DB_PASSWORD)"
  | .database => "Database name (default: DB_DATABASE)"
  | .connFile => "Path to connection config file (default: ~/.pgtsgen/postgres.yaml)"
  | .verbose => "Enable debug logging"

/-- Both spellings, the short one first. -/
def name (flag : Flag) : String :=
  match flag.letter? with
  | some letter => String.ofList ['-', letter] ++ "/" ++ flag.long
  | none => flag.long

/-- The flag with a given letter. -/
def ofLetter? (letter : Char) : Option Flag :=
  all.find? fun flag => flag.letter? == some letter

/-- The flag with a given long spelling. -/
def ofLong? (text : String) : Option Flag :=
  all.find? fun flag => flag.long == text

/-- The flags whose long spelling begins with a text. -/
def abbreviated (text : String) : List Flag :=
  all.filter fun flag => text.toList.isPrefixOf flag.long.toList

end Flag
end CommandLine
end SchemaTypes

/-!
# Log entries

What the program reports while it works. An entry has a level, the part of the program that speaks
and its text; the entries of a run are kept in order, and who prints them chooses from which level
on.
-/

namespace SchemaTypes
namespace Log

/-- How important an entry is. -/
inductive Level where
  | debug
  | info
  | warning
deriving Repr, DecidableEq

/-- The name of a level. -/
def Level.name : Level → String
  | .debug => "DEBUG"
  | .info => "INFO"
  | .warning => "WARNING"

/-- The rank of a level; what is printed has at least the rank asked for. -/
def Level.rank : Level → Nat
  | .debug => 10
  | .info => 20
  | .warning => 30

/-- The parts of the program that report. -/
inductive Source where
  | builder
  | commandLine
  | generation
  | introspection
  | session
  | settings
deriving Repr, DecidableEq

/-- The name under which a part reports. -/
def Source.name : Source → String
  | .builder => "pgtsgen.core.builder"
  | .commandLine => "pgtsgen.cli.main"
  | .generation => "pgtsgen.core.generate"
  | .introspection => "pgtsgen.metadata.introspector"
  | .session => "pgtsgen.database.postgres"
  | .settings => "pgtsgen.config.connection"

/-- One report. -/
structure Entry where
  level : Level
  source : Source
  text : String
deriving Repr, DecidableEq

/-- The line that shows an entry: level, name of the source, text. -/
def Entry.line (entry : Entry) : String :=
  entry.level.name ++ " " ++ entry.source.name ++ ": " ++ entry.text

end Log
end SchemaTypes

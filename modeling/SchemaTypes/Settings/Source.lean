import SchemaTypes.FileSystem
import SchemaTypes.Log
import SchemaTypes.Number.Numeral
import SchemaTypes.Settings
import SchemaTypes.Yaml.Object

/-!
# Where settings come from

Settings are a map, and the map has one source. A file that is asked for by name is the source if
there is such a request; otherwise the user's own file, if it exists; otherwise the environment,
if one of its variables for settings is not empty; otherwise the defaults. The environment only
overlays the defaults. A source that turns out to be broken is an error and never sends the search
on to the next one. It is an error too if nobody can tell whether the user's own file exists: the
variable for the home directory may hold no path, and the path may be too long.

A map is not checked here. Single entries of it can be replaced afterwards, and only then is it
time to check it.

What is wrong with a file that holds no document is told in words of its reader, which name the
place where the reading got stuck. These words are no part of this library: they are a parameter
(`Diagnosis`), and stand in the error behind the line that the error itself begins with.
-/

namespace SchemaTypes

/-! ## The environment -/

/-- Variables, and the one for the user's home directory. The variables are those that a run finds
when it looks for its settings. The program begins with a call of `dotenv.load_dotenv()`, which
looks for a file `.env` upwards from the directory of the program and adds what is bound in it and
not in the environment; this call is left out here, so what it adds is among the bindings
already. -/
structure Environment where
  bindings : List (String × String)
  home : String
deriving Repr

namespace Environment

/-- The home directory. Slashes at its end do not count, and nothing at all is the root. What
begins with a tilde is no path yet. -/
def homePath? (environment : Environment) : Option Path :=
  let home := Text.trimEnd (· == '/') environment.home.toList
  match home with
  | [] => some ⟨1, []⟩
  | c :: _ => if c = '~' then none else some (.ofText (String.ofList home))

/-- The variable for the number of columns. -/
def columnsName : String := "COLUMNS"

/-- The number of columns when nothing else is said. -/
def usualColumns : Nat := 80

/-- The number of columns: a positive integer that a variable spells, or else the usual one. -/
def columns (environment : Environment) : Nat :=
  match (environment.bindings.lookup columnsName).bind Numeral.ofArgument? with
  | some n => if 0 < n then n.toNat else usualColumns
  | none => usualColumns

end Environment

/-! ## Sources -/

namespace Settings

/-- The user's own file, if there is a home directory. -/
def userFile? (environment : Environment) : Option Path :=
  environment.homePath?.map fun home =>
    { home with names := home.names ++ [".pgtsgen", "postgres.yaml"] }

/-- What holds where nothing is said. -/
def defaults : List (Value × Value) := [
  (.text "host", .text "localhost"), (.text "port", .int defaultPort),
  (.text "user", .text "postgres"), (.text "password", .text ""), (.text "database", .text "")]

/-- The variables for settings, and the fields that they set. -/
def variableNames : List (String × String) := [
  ("DB_HOST", "host"), ("DB_PORT", "port"), ("DB_USER", "user"), ("DB_PASSWORD", "password"),
  ("DB_DATABASE", "database")]

/-- The settings that the variables make: one for each that is there and not empty. -/
def ofVariables (bindings : List (String × String)) : List (String × String) :=
  variableNames.filterMap fun entry =>
    match bindings.lookup entry.1 with
    | none => none
    | some value => if value.isEmpty then none else some (entry.2, value)

/-- Writes values over the entries of a map. -/
def overlay (entries : List (Value × Value)) (values : List (String × Value)) :
    List (Value × Value) :=
  values.foldl (fun known field => Value.insertEntry (.text field.1) field.2 known) entries

/-- Why a source gives no map. -/
inductive LoadError where
  /-- There is no home directory to look for the user's own file in. -/
  | noHome
  /-- Looking for the user's own file failed. -/
  | unknown (fault : FileFault)
  | notFound (path : String)
  | unreadable (path : String) (fault : FileFault)
  /-- The content of the file is no document, and its reader says why. -/
  | malformed (path report : String)
  | notAMap (path : String)
  /-- The file is not UTF-8. -/
  | encoding (fault : Text.Utf8.Fault)
  /-- The content of the file is nested too deep. -/
  | tooDeep
  /-- A scalar in the file has the form of a value and none. -/
  | scalar (fault : Yaml.ScalarFault)
deriving Repr, DecidableEq

/-- The text of an error. -/
def LoadError.message : LoadError → String
  | .noHome => "Could not determine home directory."
  | .unknown fault => fault.message
  | .notFound path => "Configuration file not found: " ++ path
  | .unreadable path fault => "Error reading configuration file: " ++ path ++ "\n" ++ fault.message
  | .malformed path report => "Invalid YAML configuration: " ++ path ++ "\n" ++ report
  | .notAMap path => "Configuration file must contain a YAML dictionary: " ++ path
  | .encoding fault => fault.message
  | .tooDeep => "maximum recursion depth exceeded"
  | .scalar fault => fault.message

/-- The error that a fault of the content of a file becomes. -/
def LoadError.ofFault (path report : String) : Yaml.Fault → LoadError
  | .malformed => .malformed path report
  | .encoding fault => .encoding fault
  | .tooDeep => .tooDeep
  | .scalar fault => .scalar fault

/-- What a reader of documents says about the content of a file, which is at a path, if it is no
document. -/
abbrev Diagnosis := String → List UInt8 → String

/-- The map in a file. -/
def ofFile (diagnosis : Diagnosis) (files : FileSystem) (path : String) :
    Except LoadError (List (Value × Value)) :=
  if !files.has path then .error (.notFound path)
  else
    match files.read path with
    | .error fault => .error (.unreadable path fault)
    | .ok bytes =>
      match Yaml.readBytes bytes with
      | .error fault => .error (.ofFault path (diagnosis path bytes) fault)
      | .ok (.map entries) => .ok entries
      | .ok _ => .error (.notAMap path)

/-- What loading leaves behind: the map or the error, and the reports. -/
structure Loaded where
  result : Except LoadError (List (Value × Value))
  log : List Log.Entry

/-- A report about the source. -/
def report (level : Log.Level) (text : String) : Log.Entry :=
  ⟨level, .settings, text⟩

/-- Loads from a file. -/
def loadFile (diagnosis : Diagnosis) (files : FileSystem) (path : String) : Loaded :=
  match ofFile diagnosis files path with
  | .ok entries => ⟨.ok entries, [report .info ("Loaded connection config from: " ++ path)]⟩
  | .error error => ⟨.error error, []⟩

/-- Loads from the environment or, if it sets nothing, from the defaults. -/
def loadVariables (bindings : List (String × String)) : Loaded :=
  match ofVariables bindings with
  | [] => ⟨.ok defaults, [report .warning "No connection config found. Using defaults."]⟩
  | field :: fields =>
    ⟨.ok (overlay defaults ((field :: fields).map fun entry => (entry.1, .text entry.2))),
      [report .info "Loaded connection config from environment variables"]⟩

/-- Loads from the user's own file if it exists, and otherwise from what there is. -/
def loadUnasked (diagnosis : Diagnosis) (files : FileSystem) (environment : Environment) :
    Loaded :=
  match userFile? environment with
  | none => ⟨.error .noHome, []⟩
  | some path =>
    match files.seek path.text with
    | .error fault => ⟨.error (.unknown fault), []⟩
    | .ok true => loadFile diagnosis files path.text
    | .ok false => loadVariables environment.bindings

/-- Loads the map of settings from its source. -/
def load (diagnosis : Diagnosis) (files : FileSystem) (environment : Environment)
    (requested : Option String) : Loaded :=
  match requested.filter (!·.isEmpty) with
  | some path => loadFile diagnosis files path
  | none => loadUnasked diagnosis files environment

end Settings
end SchemaTypes

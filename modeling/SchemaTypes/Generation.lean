import SchemaTypes.Declaration.Build
import SchemaTypes.FileSystem
import SchemaTypes.Introspection
import SchemaTypes.TypeScript.Render

/-!
# Generation

From a database to a file of declarations: introspect a schema, build its declarations, write the
text. The text depends on the schema alone. Nothing is written before the whole text is there, so
a run that fails earlier leaves all files as they were, and so does a dry run, which stops short
of writing.
-/

namespace SchemaTypes
namespace DatabaseSchema

/-- The text of the declarations of a schema, or the collision of names that leaves it without
any. -/
def generate (schema : DatabaseSchema) : Except Collision String :=
  schema.build.outcome.map TypeScript.renderFile

end DatabaseSchema

namespace Generation

/-- What a run is asked to do. -/
structure Request where
  output : Path
  schemaName : Value
  isDryRun : Bool
deriving Repr

/-- Why a run ends without a result. -/
inductive Error where
  | introspection (error : Introspection.Error)
  | collision (clash : Collision)
  | file (fault : FileFault)
deriving Repr

/-- The text of an error. -/
def Error.message : Error → String
  | .introspection error => error.message
  | .collision clash => clash.message
  | .file fault => fault.message

/-- The result of a run. -/
structure Result where
  output : Path
  content : String
  tableCount : Nat
  enumCount : Nat
  isWritten : Bool
deriving Repr, DecidableEq

/-- What a run leaves behind: its result or error, the files, the queries and the reports. -/
structure Outcome where
  result : Except Error Result
  files : FileSystem
  queries : List Introspection.Query
  log : List Log.Entry

/-- A report of a run. -/
def report (text : String) : Log.Entry :=
  ⟨.info, .generation, text⟩

/-- The reports of how much was found. -/
def countReports (schema : DatabaseSchema) : List Log.Entry :=
  [report ("Enum types: " ++ schema.enums.length.repr),
    report ("Table interfaces: " ++ schema.tables.length.repr)]

/-- The result for a schema and its text. -/
def resultOf (request : Request) (schema : DatabaseSchema) (content : String) : Result where
  output := request.output
  content
  tableCount := schema.tables.length
  enumCount := schema.enums.length
  isWritten := !request.isDryRun

/-- The number of bytes that a text takes in a file. -/
def byteCount (content : String) : Nat :=
  (Text.Utf8.encode content).length

/-- Puts the text where it was asked for, unless the run is dry. -/
def deliver (files : FileSystem) (request : Request) (content : String) :
    FileSystem × Except FileFault Unit × List Log.Entry :=
  if request.isDryRun then
    (files, .ok (), [report ("Dry run: skipping write to " ++ request.output.text)])
  else
    match files.writeText request.output content with
    | (files, .error fault) => (files, .error fault, [])
    | (files, .ok ()) =>
      (files, .ok (),
        [report ("Wrote " ++ (byteCount content).repr ++ " bytes to " ++ request.output.text)])

/-- Generates the declarations of a schema. -/
def run (executor : Introspection.Executor) (files : FileSystem) (request : Request) : Outcome :=
  let found := introspect executor request.schemaName
  match found.result with
  | .error error => ⟨.error (.introspection error), files, found.queries, found.log⟩
  | .ok schema =>
    let built := schema.build
    let log := found.log ++ built.log
    match built.outcome with
    | .error clash => ⟨.error (.collision clash), files, found.queries, log⟩
    | .ok file =>
      let content := TypeScript.renderFile file
      let (files, delivered, delivery) := deliver files request content
      let log := log ++ countReports schema ++ delivery
      match delivered with
      | .error fault => ⟨.error (.file fault), files, found.queries, log⟩
      | .ok () => ⟨.ok (resultOf request schema content), files, found.queries, log⟩

end Generation
end SchemaTypes

import SchemaTypes.Introspection.Query
import SchemaTypes.Validation

/-!
# Errors of an introspection

A query that fails ends the introspection with the kind of the query, what it was about and the
failure behind it. A row that cannot be used ends it too: it lacks a column that has to be there,
or its values do not make up the record that it is for.
-/

namespace SchemaTypes
namespace Introspection

/-- The failure of a query. -/
structure QueryError where
  stage : Stage
  schemaName : Value
  /-- The table, or an empty value for a query about a whole schema. -/
  tableName : Value
  cause : Option Failure
deriving Repr

/-- The failure of a query: its kind, the schema or the table in it, and the text of the failure
behind it, if there is one. -/
def QueryError.message (error : QueryError) : String :=
  let target :=
    if error.tableName.isEmpty then error.schemaName.toText
    else error.schemaName.toText ++ "." ++ error.tableName.toText
  let cause := (error.cause.map fun failure => ": " ++ failure.message).getD ""
  error.stage.word ++ " query failed for " ++ target ++ cause

/-- A record that could not be made: its kind, the values for its fields, and what is wrong with
them. -/
structure RecordError where
  record : String
  input : List (String × Value)
  issues : List Issue
deriving Repr

/-- The longest value, in bytes, that a message shows whole. -/
def maxShownBytes : Nat := 50

/-- The longest beginning of a text that takes so many bytes at most. -/
def frontOfBytes : Nat → List Char → List Char
  | _, [] => []
  | bytes, c :: rest =>
    if c.utf8Size ≤ bytes then c :: frontOfBytes (bytes - c.utf8Size) rest else []

/-- A text with its middle left out if it is long. -/
def shortened (text : String) : String :=
  if text.utf8ByteSize ≤ maxShownBytes then text
  else
    let front := frontOfBytes (maxShownBytes / 2) text.toList
    let back := (frontOfBytes (maxShownBytes / 2 - 1) text.toList.reverse).reverse
    String.ofList front ++ "..." ++ String.ofList back

/-- The address of the explanation of a problem. -/
def explanationOf (problem : Problem) : String :=
  "/".intercalate ["https:", "", "errors.pydantic.dev", "2.14", "v", problem.code]

/-- The value that an issue is about. A way of one step leads to a field of the record. -/
def RecordError.valueAt (error : RecordError) (issue : Issue) : Value :=
  match issue.location with
  | .field name :: _ => (error.input.lookup name).getD .null
  | _ => .null

/-- An issue as a message shows it: the way to it, and below it what is wrong with which value and
where to read more. -/
def RecordError.issueText (error : RecordError) (issue : Issue) : String :=
  let value := error.valueAt issue
  ".".intercalate (issue.location.map (·.text)) ++ "\n  " ++ issue.problem.message
    ++ " [type=" ++ issue.problem.code ++ ", input_value=" ++ shortened value.display
    ++ ", input_type=" ++ value.kindName ++ "]\n    For further information visit "
    ++ explanationOf issue.problem

/-- The text of the failure to make a record. -/
def RecordError.message (error : RecordError) : String :=
  error.issues.length.repr ++ " validation error" ++ (if error.issues.length = 1 then "" else "s")
    ++ " for " ++ error.record ++ "\n" ++ "\n".intercalate (error.issues.map error.issueText)

/-- Why an introspection ended without a schema. -/
inductive Error where
  /-- A query failed. -/
  | query (error : QueryError)
  /-- A row has no such column. -/
  | missingColumn (name : String)
  /-- The values of a row do not make up a record. -/
  | invalidRecord (error : RecordError)
deriving Repr

/-- The text of an error. -/
def Error.message : Error → String
  | .query error => error.message
  | .missingColumn name => Text.display name
  | .invalidRecord error => error.message

end Introspection
end SchemaTypes

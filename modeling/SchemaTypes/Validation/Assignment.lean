import SchemaTypes.Validation

/-!
# Assigning fields

What happens to a record when one of its fields is given another value. Records of schemas and of
declarations are frozen: no field of theirs can be assigned. Settings are open: every field of
theirs can be assigned, and the new value is not checked.

A name that begins with an underscore is no field, and what it is given belongs to no record. So
such an assignment has no effect, whatever the record; only a few names of this kind mean something
and refuse what makes no sense for them.
-/

namespace SchemaTypes

/-- Whether the fields of a record can be assigned. -/
inductive Mutability where
  | frozen
  | opened
deriving Repr, DecidableEq

namespace Assignment

/-- Why an assignment is not accepted. -/
inductive Error where
  | frozen (name : String)
  | unknownField (record name : String)
  /-- The name is that of something computed. -/
  | computed (record name : String)
  /-- The name is that of something that cannot be written. -/
  | unwritable (record name : String)
  /-- The name is that of the record's class, and a value of some kind is none. -/
  | notAClass (kind : String)
  /-- The name is that of all the fields, and a value of some kind has none. -/
  | notAllFields (kind : String)
deriving Repr, DecidableEq

/-- The text of an error. -/
def Error.message : Error → String
  | .frozen _ => Problem.frozen.message
  | .unknownField record name => "\"" ++ record ++ "\" object has no field \"" ++ name ++ "\""
  | .computed record name =>
    "property '" ++ name ++ "' of '" ++ record ++ "' object has no setter"
  | .unwritable record name =>
    "attribute '" ++ name ++ "' of '" ++ record ++ "' objects is not writable"
  | .notAClass kind => "__class__ must be set to a class, not '" ++ kind ++ "' object"
  | .notAllFields kind => "__dict__ must be set to a dictionary, not a '" ++ kind ++ "'"

/-- The issue that an assignment to a frozen record is. -/
def frozenIssue (name : String) : Issue :=
  ⟨[.field name], .frozen⟩

/-- What is computed from an open record and cannot be assigned. -/
def computedNames : List String := ["model_extra", "model_fields_set"]

/-- Assigns to a name that begins with an underscore, in a record with fields of the given names. -/
def assignHidden (record : String) (names : List String) (fields : List (Value × Value))
    (name : String) (value : Value) : Except Error (List (Value × Value)) :=
  match name, value with
  | "__fields_set__", _ => .error (.computed record name)
  | "__weakref__", _ => .error (.unwritable record name)
  | "__class__", _ => .error (.notAClass value.kindName)
  | "__dict__", .map entries =>
    .ok (names.filterMap fun name =>
      (Value.field? entries name).map fun value => (.text name, value))
  | "__dict__", _ => .error (.notAllFields value.kindName)
  | _, _ => .ok fields

/-- Assigns to a name that may be a field. -/
def assignField (mutability : Mutability) (record : String) (names : List String)
    (fields : List (Value × Value)) (name : String) (value : Value) :
    Except Error (List (Value × Value)) :=
  match mutability with
  | .frozen => .error (.frozen name)
  | .opened =>
    if names.contains name then .ok (Value.insertEntry (.text name) value fields)
    else if computedNames.contains name then .error (.computed record name)
    else .error (.unknownField record name)

/-- Assigns a value to a name of a record. -/
def assign (mutability : Mutability) (record : String) (names : List String)
    (fields : List (Value × Value)) (assignment : String × Value) :
    Except Error (List (Value × Value)) :=
  let (name, value) := assignment
  if name.toList.head? == some '_' then assignHidden record names fields name value
  else assignField mutability record names fields name value

/-- Assigns one after the other, up to the first assignment that is not accepted. The fields of the
record are those that it has at first; giving all of them at once may leave some out, and they can
be assigned again. -/
def assignAll (mutability : Mutability) (record : String) (fields : List (Value × Value))
    (assignments : List (String × Value)) : Except Error (List (Value × Value)) :=
  assignments.foldlM (assign mutability record (fields.filterMap (·.1.text?))) fields

end Assignment
end SchemaTypes

import SchemaTypes.Text.Utf8
import SchemaTypes.Value

/-!
# Checked construction

Records arrive as maps from names to values. Building a typed record from one checks every field
and reports every fault, in the order of the record's fields, each with the place where it was
found. An unknown field is no fault: it is not looked at.

A check either gives a valid result or a list of issues. Two checks side by side keep the issues
of both, the left ones first; that is the whole difference from a computation that stops at its
first error, and it is why `Checked` is only an applicative functor and not a monad.

Texts are accepted as texts, and from bytes that spell one. Truth values and integers are accepted
in the other spellings that configuration files use, be it in texts or in bytes; the rules stand at
`Check.flag` and `Check.integer`.
-/

namespace SchemaTypes

/-- A step on the way to a value inside a record. -/
inductive Step where
  | field (name : String)
  | index (position : Nat)
deriving Repr, DecidableEq

/-- The text of a step. -/
def Step.text : Step → String
  | .field name => name
  | .index position => position.repr

/-- What is wrong with a value. -/
inductive Problem where
  | missing
  | notText
  /-- A text that is broken, or bytes that spell none. -/
  | notUnicode
  | textTooShort
  | notFlag
  | unreadableFlag
  | notInteger
  | unreadableInteger
  | integerTooLong
  | fractional
  | notFinite
  | notList
  | notRecord (record : String)
  | portRange
  | frozen
deriving Repr, DecidableEq

namespace Problem

/-- The short name of a problem. -/
def code : Problem → String
  | .missing => "missing"
  | .notText => "string_type"
  | .notUnicode => "string_unicode"
  | .textTooShort => "string_too_short"
  | .notFlag => "bool_type"
  | .unreadableFlag => "bool_parsing"
  | .notInteger => "int_type"
  | .unreadableInteger => "int_parsing"
  | .integerTooLong => "int_parsing_size"
  | .fractional => "int_from_float"
  | .notFinite => "finite_number"
  | .notList => "tuple_type"
  | .notRecord _ => "model_type"
  | .portRange => "value_error"
  | .frozen => "frozen_instance"

/-- The text of a problem. -/
def message : Problem → String
  | .missing => "Field required"
  | .notText => "Input should be a valid string"
  | .notUnicode =>
    "Input should be a valid string, unable to parse raw data as a unicode string"
  | .textTooShort => "String should have at least 1 character"
  | .notFlag => "Input should be a valid boolean"
  | .unreadableFlag => "Input should be a valid boolean, unable to interpret input"
  | .notInteger => "Input should be a valid integer"
  | .unreadableInteger =>
    "Input should be a valid integer, unable to parse string as an integer"
  | .integerTooLong =>
    "Unable to parse input string as an integer, exceeded maximum size"
  | .fractional => "Input should be a valid integer, got a number with a fractional part"
  | .notFinite => "Input should be a finite number"
  | .notList => "Input should be a valid tuple"
  | .notRecord record => "Input should be a valid dictionary or instance of " ++ record
  | .portRange => "Value error, port must be between 1 and 65535"
  | .frozen => "Instance is frozen"

end Problem

/-- A problem and the way to it. -/
structure Issue where
  location : List Step
  problem : Problem
deriving Repr, DecidableEq

/-- Puts a step in front of the way to an issue. -/
def Issue.under (step : Step) (issue : Issue) : Issue :=
  { issue with location := step :: issue.location }

/-- The outcome of a check: a valid result, or every issue found. -/
inductive Checked (α : Type) where
  | valid (value : α)
  | invalid (issues : List Issue)
deriving Repr

namespace Checked

variable {α β : Type}

/-- Changes a valid result. -/
def map (f : α → β) : Checked α → Checked β
  | .valid value => .valid (f value)
  | .invalid issues => .invalid issues

/-- Joins two checks; the issues of both are kept, the left ones first. -/
def join : Checked (α → β) → Checked α → Checked β
  | .valid f, .valid value => .valid (f value)
  | .valid _, .invalid issues => .invalid issues
  | .invalid issues, .valid _ => .invalid issues
  | .invalid issues, .invalid others => .invalid (issues ++ others)

instance : Applicative Checked where
  pure := .valid
  map f checked := checked.map f
  seq checked argument := checked.join (argument ())

/-- Places the issues of a check under a step. -/
def under (step : Step) : Checked α → Checked α
  | .valid value => .valid value
  | .invalid issues => .invalid (issues.map (·.under step))

/-- A check that fails with one problem at the value itself. -/
def fail (problem : Problem) : Checked α :=
  .invalid [⟨[], problem⟩]

/-- The issues of a check. -/
def issues : Checked α → List Issue
  | .valid _ => []
  | .invalid issues => issues

/-- The valid result, or the issues as an error. -/
def toExcept : Checked α → Except (List Issue) α
  | .valid value => .ok value
  | .invalid issues => .error issues

end Checked

namespace Check

variable {α : Type}

/-- A text. -/
def text : Value → Checked String
  | .text s => .valid s
  | .brokenText _ => .fail .notUnicode
  | .bytes content =>
    match Text.Utf8.decode content with
    | .ok cs => .valid (String.ofList cs)
    | .error _ => .fail .notUnicode
  | _ => .fail .notText

/-- A text that is not empty. -/
def nonEmptyText (value : Value) : Checked String :=
  match text value with
  | .valid s => if s.isEmpty then .fail .textTooShort else .valid s
  | .invalid issues => .invalid issues

/-- The words for falsehood, in lower case. -/
def falseWords : List String := ["0", "off", "f", "false", "n", "no"]

/-- The words for truth, in lower case. -/
def trueWords : List String := ["1", "on", "t", "true", "y", "yes"]

/-- The first integer that does not fit into 64 bits with a sign: two to the power 63. -/
def wordBound : Int := 9223372036854775808

/-- Whether an integer fits into 64 bits with its sign. -/
def isWord (n : Int) : Bool :=
  -wordBound ≤ n && n < wordBound

/-- Zero and one are truth values, and no other integer is one. Beyond 64 bits the value is not
even taken for an attempt at one. -/
def flagOfInt (n : Int) : Checked Bool :=
  if n = 0 then .valid false
  else if n = 1 then .valid true
  else if isWord n then .fail .unreadableFlag
  else .fail .notFlag

/-- The truth value that a word stands for, whatever the case of its letters. -/
def flagOfText (s : String) : Checked Bool :=
  let word := String.ofList (s.toList.map Char.toLower)
  if falseWords.contains word then .valid false
  else if trueWords.contains word then .valid true
  else .fail .unreadableFlag

/-- A truth value: itself, zero or one as a number, or one of the words for it. -/
def flag : Value → Checked Bool
  | .bool b => .valid b
  | .int n => flagOfInt n
  | .float x =>
    match x.toInt? with
    | some n => if -wordBound < n then flagOfInt n else .fail .notFlag
    | none => .fail .notFlag
  | .text s => flagOfText s
  | .brokenText _ => .fail .notUnicode
  | .bytes content =>
    match Text.Utf8.decode content with
    | .ok cs => flagOfText (String.ofList cs)
    | .error _ => .fail .unreadableFlag
  | _ => .fail .notFlag

/-- The integer that a text spells. -/
def integerOfText (s : String) : Checked Int :=
  match Numeral.ofSetting s with
  | .ok n => .valid n
  | .error .malformed => .fail .unreadableInteger
  | .error (.tooLong _) => .fail .integerTooLong

/-- An integer: itself, a truth value, a float without a fraction, or a numeral. -/
def integer : Value → Checked Int
  | .int n => .valid n
  | .bool b => .valid (if b then 1 else 0)
  | .float x =>
    if !x.isFinite then .fail .notFinite
    else
      match x.toInt? with
      | none => .fail .fractional
      | some n => if -wordBound < n ∧ n < wordBound then .valid n else .fail .integerTooLong
  | .text s => integerOfText s
  | .brokenText _ => .fail .notUnicode
  | .bytes content =>
    match Text.Utf8.decode content with
    | .ok cs => integerOfText (String.ofList cs)
    | .error _ => .fail .unreadableInteger
  | _ => .fail .notInteger

/-- Null, or what another check accepts. -/
def optional (check : Value → Checked α) : Value → Checked (Option α)
  | .null => .valid none
  | value => (check value).map some

/-- The items of a list from a position on, each under its position. -/
def itemsFrom (check : Value → Checked α) : Nat → List Value → Checked (List α)
  | _, [] => .valid []
  | position, item :: rest =>
    (((check item).under (.index position)).map List.cons).join
      (itemsFrom check (position + 1) rest)

/-- A list, every item of which another check accepts. -/
def listOf (check : Value → Checked α) : Value → Checked (List α)
  | .list items => itemsFrom check 0 items
  | _ => .fail .notList

/-- A record, which has to be a map. -/
def record (name : String) (check : List (Value × Value) → Checked α) : Value → Checked α
  | .map entries => check entries
  | _ => .fail (.notRecord name)

/-- A field that has to be there. -/
def required (entries : List (Value × Value)) (name : String) (check : Value → Checked α) :
    Checked α :=
  match Value.field? entries name with
  | some value => (check value).under (.field name)
  | none => .invalid [⟨[.field name], .missing⟩]

/-- A field with a value for when it is not there. -/
def withDefault (entries : List (Value × Value)) (name : String) (default : α)
    (check : Value → Checked α) : Checked α :=
  match Value.field? entries name with
  | some value => (check value).under (.field name)
  | none => .valid default

end Check
end SchemaTypes

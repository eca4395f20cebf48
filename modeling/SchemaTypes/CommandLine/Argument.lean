import SchemaTypes.CommandLine.Flag
import SchemaTypes.Text.Character

/-!
# Arguments

Before anything is done, every argument is looked at on its own. One that begins with a hyphen is
a flag: by its spelling, by the beginning of a long spelling if no other long spelling begins so,
or by its letter with more behind it. A value may be attached to it, behind an equals sign or, for
a letter, without one. Three things that begin with a hyphen are no flags all the same: the hyphen
itself, a negative number, and a text with a space in it that is close to no flag.

Two hyphens alone end the flags; every argument behind them is an operand.
-/

namespace SchemaTypes
namespace CommandLine

/-- What an argument is. -/
inductive Argument where
  /-- The two hyphens behind which there are no flags. -/
  | separator
  | operand (text : String)
  /-- It looks like a flag, and there is none like it. -/
  | unknown (text : String)
  /-- A flag, how it is spelled, and the text attached to it. -/
  | flag (flag : Flag) (isLong : Bool) (attached : Option (List Char))
deriving Repr, DecidableEq

/-- The argument could be more than one flag. -/
structure Ambiguity where
  argument : String
  candidates : List Flag
deriving Repr, DecidableEq

namespace Argument

/-- Whether a text is a negative number: a hyphen, and digits that may have a point in them or in
front. -/
def isNegativeNumber (cs : List Char) : Bool :=
  let isDigit := fun c => (Text.decimalValue? c).isSome
  let cs := if cs.getLast? == some '\n' then cs.dropLast else cs
  match cs with
  | '-' :: digits =>
    match digits.dropWhile isDigit with
    | [] => !digits.isEmpty
    | '.' :: fraction => !fraction.isEmpty && fraction.all isDigit
    | _ => false
  | _ => false

/-- An argument that begins with a hyphen and is near no flag. -/
def ofStranger (text : String) : Argument :=
  if isNegativeNumber text.toList || text.toList.contains ' ' then .operand text
  else .unknown text

/-- The part of a text in front of its first equals sign, and the part behind it if there is
one. -/
def splitSign (cs : List Char) : List Char × Option (List Char) :=
  let front := cs.takeWhile (· != '=')
  (front, (cs.dropWhile (· != '=')).tail?)

/-- What an argument is that begins with two hyphens. -/
def ofLong (text : String) : Except Ambiguity Argument :=
  let (front, attached) := splitSign text.toList
  let spelling := String.ofList front
  match Flag.ofLong? spelling, Flag.abbreviated spelling with
  | some found, _ => .ok (.flag found true attached)
  | none, [] => .ok (ofStranger text)
  | none, [found] => .ok (.flag found true attached)
  | none, candidates => .error ⟨text, candidates⟩

/-- What an argument is that begins with a hyphen and a letter. -/
def ofShort (text : String) (letter : Char) (rest : List Char) : Argument :=
  match Flag.ofLetter? letter with
  | none => ofStranger text
  | some found =>
    match rest with
    | [] => .flag found false none
    | '=' :: attached => .flag found false (some attached)
    | attached => .flag found false (some attached)

/-- What an argument is, in front of any separator. -/
def ofText (text : String) : Except Ambiguity Argument :=
  match text.toList with
  | ['-', '-'] => .ok .separator
  | '-' :: '-' :: _ => ofLong text
  | '-' :: letter :: rest => .ok (ofShort text letter rest)
  | _ => .ok (.operand text)

/-- What the arguments of a command line are. -/
def ofTexts : List String → Except Ambiguity (List Argument)
  | [] => .ok []
  | text :: rest => do
    match ← ofText text with
    | .separator => return .separator :: rest.map .operand
    | argument => return argument :: (← ofTexts rest)

end Argument
end CommandLine
end SchemaTypes

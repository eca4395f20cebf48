import SchemaTypes.Date
import SchemaTypes.Text.Display
import SchemaTypes.Text.Utf8

/-!
# Faults of a YAML text

A text may be no YAML document at all: nothing more is said about that here. It may not even be a
text, or be nested too deep to be read. Or it is a document, but a scalar in it that looks like a
number, a truth value or a date is none; then the fault says what was wrong with that scalar.
Scalars are kept as code points, since escapes can name surrogates.
-/

namespace SchemaTypes
namespace Yaml

/-- Why a scalar has no value. -/
inductive ScalarFault where
  /-- The text is no integer of that base. -/
  | integer (base : Nat) (points : List Nat)
  /-- The integer has more digits than are read. -/
  | integerTooLong (digits : Nat)
  /-- The text is no floating-point number. -/
  | float (points : List Nat)
  /-- A power of sixty is larger than all floating-point numbers. -/
  | powerTooLarge
  /-- A number without any text. -/
  | noNumber
  /-- The word names no truth value. -/
  | truth (points : List Nat)
  /-- The text does not have the form of a date. -/
  | notADate
  /-- A collection is given as a date, be it one that stands for a scalar. -/
  | collectionAsDate
  /-- The numbers name no date. -/
  | date (fault : Date.Fault)
  /-- The offset from universal time is a day or more. -/
  | offset (minutes : Int)
  /-- An escape names a code point beyond the last one. -/
  | codePoint (n : Nat)
deriving Repr, DecidableEq

/-- The length of time of an offset, as whole days and the seconds beyond them. -/
def durationText (minutes : Int) : String :=
  let days := minutes.fdiv 1440
  let seconds := (minutes - 1440 * days) * 60
  "datetime.timedelta(days=" ++ toString days
    ++ (if seconds = 0 then "" else ", seconds=" ++ toString seconds) ++ ")"

/-- The text of a fault. -/
def ScalarFault.message : ScalarFault → String
  | .integer base points =>
    "invalid literal for int() with base " ++ base.repr ++ ": "
      ++ String.ofList ((Text.displayPoints points).toList.take 200)
  | .integerTooLong digits =>
    "Exceeds the limit (4300 digits) for integer string conversion: value has " ++ digits.repr
      ++ " digits; use sys.set_int_max_str_digits() to increase the limit"
  | .float points => "could not convert string to float: " ++ Text.displayPoints points
  | .powerTooLarge => "int too large to convert to float"
  | .noNumber => "string index out of range"
  | .truth points => Text.displayPoints points
  | .notADate => "'NoneType' object has no attribute 'groupdict'"
  | .collectionAsDate => "expected string or bytes-like object, got 'list'"
  | .date fault => fault.message
  | .offset minutes =>
    "offset must be a timedelta strictly between -timedelta(hours=24) and timedelta(hours=24), not "
      ++ durationText minutes ++ "."
  | .codePoint n =>
    if n < 0x80000000 then "chr() arg not in range(0x110000)"
    else "Python int too large to convert to C int"

/-- Why a text has no value. -/
inductive Fault where
  | malformed
  /-- The bytes are no text. -/
  | encoding (fault : Text.Utf8.Fault)
  /-- Collections stand inside each other too deep, or without end. -/
  | tooDeep
  | scalar (fault : ScalarFault)
deriving Repr, DecidableEq

end Yaml
end SchemaTypes

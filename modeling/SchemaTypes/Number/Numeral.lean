import SchemaTypes.Text.Character

/-!
# Integers in texts

Two readers of integers. Both refuse a decimal numeral of more than 4300 digits.

`Numeral.read` reads an integer of a base: blanks may stand around it and a sign in front of it,
the base may be named, and its digits may be those of any script, with single underscores between
them. The digits are counted before what follows them is looked at. That order decides what a text
of 5000 digits and a letter is: too long, and not malformed.

`Numeral.ofSetting` reads what stands in a configuration, in two attempts. The plain form is an
optional minus and digits without a leading zero. A text that is not in plain form is cleaned up
and read again: white space around it, a plus, leading zeros, a fraction that consists of zeros
and single underscores go away, so `5432.00` is an integer and `5432.` is not. Only the first
attempt calls a numeral too long; in the second one such a numeral is malformed like any other.
Leading zeros may have any number of underscores among them and end at a minus as well as at a
digit, so `0__80` is 80 and `0-80` is -80.
-/

namespace SchemaTypes
namespace Numeral

/-- The most digits a numeral may have. -/
def maxDigits : Nat := 4300

/-- Why a text spells no integer. -/
inductive Fault where
  | malformed
  /-- The numeral has so many digits. -/
  | tooLong (digits : Nat)
deriving Repr, DecidableEq

/-- The number that digits of a given base stand for. -/
def ofDigitsIn (base : Nat) (digits : List Nat) : Nat :=
  digits.foldl (fun n d => base * n + d) 0

/-- The number that decimal digits stand for. -/
def ofDigits (digits : List Nat) : Nat :=
  ofDigitsIn 10 digits

/-- Digits with at most one underscore between two of them, and none at either end. -/
def groupedDigits? (digit? : Char → Option Nat) : List Char → Option (List Nat)
  | [] => none
  | [c] => (digit? c).map ([·])
  | c :: '_' :: cs => do
    let first ← digit? c
    let rest ← groupedDigits? digit? cs
    return first :: rest
  | c :: d :: cs => do
    let first ← digit? c
    let rest ← groupedDigits? digit? (d :: cs)
    return first :: rest

/-- Whether a numeral is negative, and what follows its sign. -/
def splitSign : List Char → Bool × List Char
  | '-' :: cs => (true, cs)
  | '+' :: cs => (false, cs)
  | cs => (false, cs)

/-- A number with its sign. -/
def withSign (negative : Bool) (n : Nat) : Int :=
  if negative then -(n : Int) else n

/-! ## Integers of a base -/

/-- A character as numerals are written in ASCII: a decimal digit of another script becomes the
ASCII digit of the same value, and white space beyond ASCII becomes a space. -/
def asciiForm (c : Char) : Char :=
  if c.toNat < 0x80 then c
  else if Text.isWhite c then ' '
  else
    match Text.decimalValue? c with
    | some d => Char.ofNat ('0'.toNat + d)
    | none => c

/-- The blanks that may stand around a numeral in ASCII. -/
def isBlank (c : Char) : Bool :=
  (0x09 ≤ c.toNat && c.toNat ≤ 0x0D) || c == ' '

/-- The value of a digit of a base; the digits beyond nine are letters. -/
def digitIn? (base : Nat) (c : Char) : Option Nat :=
  let value :=
    if c.isDigit then some (c.toNat - '0'.toNat)
    else if c.isAlpha then some (c.toLower.toNat - 'a'.toNat + 10)
    else none
  value.filter (· < base)

/-- The letters that name bases behind a zero. -/
def baseLetters : List (Nat × Char) := [(2, 'b'), (8, 'o'), (16, 'x')]

/-- What follows the name of the base, if it is named. One underscore may stand behind it. -/
def dropBaseName (base : Nat) (cs : List Char) : List Char :=
  match cs with
  | '0' :: letter :: rest =>
    if baseLetters.lookup base == some letter.toLower then
      if rest.head? == some '_' then rest.tail else rest
    else cs
  | _ => cs

/-- The integer of a base that a text spells. -/
def read (base : Nat) (text : List Char) : Except Fault Int :=
  let (negative, body) := splitSign ((text.map asciiForm).dropWhile isBlank)
  let body := dropBaseName base body
  let isPart := fun c => c == '_' || (digitIn? base c).isSome
  match groupedDigits? (digitIn? base) (body.takeWhile isPart) with
  | none => .error .malformed
  | some digits =>
    if base = 10 ∧ maxDigits < digits.length then .error (.tooLong digits.length)
    else if ((body.dropWhile isPart).dropWhile isBlank).isEmpty then
      .ok (withSign negative (ofDigitsIn base digits))
    else .error .malformed

/-- The integer that a command-line argument spells. -/
def ofArgument? (text : String) : Option Int :=
  (read 10 text.toList).toOption

/-! ## Integers in settings -/

/-- The integer that a text in plain form spells. -/
def plain (cs : List Char) : Except Fault Int :=
  let negative := cs.head? == some '-'
  let body := if negative then cs.tail else cs
  let digits := (body.takeWhile Char.isDigit).filterMap Text.asciiDigit?
  let length := digits.length + if negative then 1 else 0
  match body with
  | [] => .error .malformed
  | '0' :: rest => if rest.isEmpty then .ok 0 else .error .malformed
  | _ =>
    if maxDigits < length then .error (.tooLong length)
    else if body.all Char.isDigit then .ok (withSign negative (ofDigits digits))
    else .error .malformed

/-- What is left behind leading zeros, given the last character that has been left out. In front
of a point that character stays, and if nothing else is there it stays alone. -/
def behindZeros (last : Char) : List Char → Option (List Char)
  | [] => some [last]
  | c :: rest =>
    if c = '0' ∨ c = '_' then behindZeros c rest
    else if c.isDigit ∨ c = '-' then some (c :: rest)
    else if c = '.' then some (last :: c :: rest)
    else none

/-- A text that begins with a digit, without its leading zeros. -/
def dropZeros : List Char → Option (List Char)
  | [] => none
  | c :: rest =>
    if c = '0' then behindZeros c rest else if c.isDigit then some (c :: rest) else none

/-- Takes away a fraction that consists of one zero or more. -/
def dropZeroFraction (cs : List Char) : List Char :=
  let whole := cs.takeWhile (· != '.')
  match cs.dropWhile (· != '.') with
  | '.' :: '0' :: zeros => if zeros.all (· == '0') then whole else cs
  | _ => cs

/-- Takes away underscores, none of which may stand at an end or beside another one. -/
def dropUnderscores (cs : List Char) : Option (List Char) :=
  if (cs.splitOn '_').any List.isEmpty then none else some (cs.filter (· != '_'))

/-- A text with all taken away that may stand around the plain form. -/
def cleaned (cs : List Char) : Option (List Char) := do
  let (negative, body) := splitSign (Text.trim Text.isWhite cs)
  let digits ← dropUnderscores (dropZeroFraction (← dropZeros body))
  return if negative then '-' :: digits else digits

/-- The integer that a setting spells. -/
def ofSetting (text : String) : Except Fault Int :=
  match plain text.toList with
  | .error .malformed =>
    match (cleaned text.toList).map plain with
    | some (.ok n) => .ok n
    | _ => .error .malformed
  | outcome => outcome

end Numeral
end SchemaTypes

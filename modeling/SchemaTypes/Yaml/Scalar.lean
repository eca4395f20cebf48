import SchemaTypes.Text.Base64
import SchemaTypes.Text.LowerCase
import SchemaTypes.Value
import SchemaTypes.Yaml.Fault
import SchemaTypes.Yaml.Tag

/-!
# Values of scalars

A plain scalar says by its form what it is: a null, a truth value, an integer, a floating-point
number or a date, and otherwise a text. `plainTag` decides that by the form alone, and
`scalarValue` then computes the value. Some texts have the form and no value: `0x_` has the form
of an integer, and `2024-02-30` that of a date.

A tag may also claim a kind for a scalar of any form, so `scalarValue` takes every text. Texts are
code points here. A surrogate has no part in any form and is no digit of any number, so where
characters are looked at the replacement character does for it; only in what a fault shows and in
a text itself the code points are kept.
-/

namespace SchemaTypes
namespace Yaml

/-! ## Forms -/

/-- A decimal digit or an underscore. -/
def isNumeralChar (c : Char) : Bool :=
  c.isDigit || c == '_'

/-- Whether a text is a number below sixty, of one digit or two. -/
def isSixtieth : List Char → Bool
  | [c] => c.isDigit
  | [c, d] => '0' ≤ c && c ≤ '5' && d.isDigit
  | _ => false

/-- Whether a text consists of a colon and a number below sixty, once or more often. -/
def isSixtieths (cs : List Char) : Bool :=
  match cs.splitOn ':' with
  | [] :: part :: parts => (part :: parts).all isSixtieth
  | _ => false

/-- Whether a text has the form of an integer: binary, octal, decimal, hexadecimal, or in base
sixty with colons between the digits. -/
def hasIntegerForm (cs : List Char) : Bool :=
  match (Numeral.splitSign cs).2 with
  | '0' :: 'b' :: c :: rest => (c :: rest).all "01_".toList.contains
  | '0' :: 'x' :: c :: rest => (c :: rest).all fun d => d == '_' || (Text.hexDigit? d).isSome
  | '0' :: rest => rest.all "01234567_".toList.contains
  | c :: rest =>
    let others := rest.dropWhile isNumeralChar
    c.isDigit && (others.isEmpty || isSixtieths others)
  | [] => false

/-- Whether a text is empty or an exponent: the letter, a sign, and digits. -/
def isExponent : List Char → Bool
  | [] => true
  | e :: sign :: digit :: rest =>
    (e == 'e' || e == 'E') && (sign == '-' || sign == '+') && (digit :: rest).all Char.isDigit
  | _ => false

/-- Whether a text has the form of a floating-point number. -/
def hasFloatForm (cs : List Char) : Bool :=
  let body := (Numeral.splitSign cs).2
  let named := [".inf", ".Inf", ".INF"].contains (String.ofList body)
    || [".nan", ".NaN", ".NAN"].contains (String.ofList cs)
  let decimal :=
    match body with
    | '.' :: c :: rest => cs == body && c.isDigit && isExponent (rest.dropWhile isNumeralChar)
    | c :: rest =>
      c.isDigit &&
        match rest.dropWhile isNumeralChar with
        | '.' :: fraction => isExponent (fraction.dropWhile isNumeralChar)
        | others =>
          match others.dropWhile (· != '.') with
          | '.' :: fraction =>
            isSixtieths (others.takeWhile (· != '.')) && fraction.all isNumeralChar
          | _ => false
    | [] => false
  named || decimal

/-- A date as it is written: the digits of its parts, whether month and day have two digits, and
perhaps a time of day. -/
structure WrittenDate where
  year : Nat
  month : Nat
  day : Nat
  isWide : Bool
  time : Option TimeOfDay
deriving Repr

/-- The number at the beginning of a text, with at least `least` digits and two at most, its
length, and what follows. -/
def shortNumber? (least : Nat) (cs : List Char) : Option (Nat × Nat × List Char) :=
  let digits := (cs.take 2).takeWhile Char.isDigit
  if digits.length < least || digits.isEmpty then none
  else
    some (Numeral.ofDigits (digits.filterMap Text.asciiDigit?), digits.length,
      cs.drop digits.length)

/-- What follows a given character. -/
def behind? (c : Char) : List Char → Option (List Char)
  | [] => none
  | d :: rest => if c == d then some rest else none

/-- The microseconds that the digits of a fraction stand for; digits beyond the sixth do not
count. -/
def microseconds (digits : List Char) : Nat :=
  let six := (digits ++ List.replicate 6 '0').take 6
  Numeral.ofDigits (six.filterMap Text.asciiDigit?)

/-- The offset at the end of a time, in minutes, if there is one. Blanks may stand in front of
it. -/
def readOffset? (cs : List Char) : Option (Option Int) :=
  match cs with
  | [] => some none
  | _ =>
    match cs.dropWhile fun c => c == ' ' || c == '\t' with
    | ['Z'] => some (some 0)
    | sign :: rest => do
      if sign ≠ '-' ∧ sign ≠ '+' then none
      let (hours, _, rest) ← shortNumber? 1 rest
      let (minutes, rest) ←
        match rest with
        | [] => some (0, [])
        | _ => do
          let (minutes, _, rest) ← shortNumber? 2 (← behind? ':' rest)
          some (minutes, rest)
      if !rest.isEmpty then none
      some (some (Numeral.withSign (sign == '-') (60 * hours + minutes)))
    | [] => none

/-- The time of day of which a text consists. -/
def readTime? (cs : List Char) : Option TimeOfDay := do
  let (hour, _, rest) ← shortNumber? 1 cs
  let (minute, _, rest) ← shortNumber? 2 (← behind? ':' rest)
  let (second, _, rest) ← shortNumber? 2 (← behind? ':' rest)
  let (fraction, rest) :=
    match rest with
    | '.' :: tail => (tail.takeWhile Char.isDigit, tail.dropWhile Char.isDigit)
    | _ => ([], rest)
  let offset ← readOffset? rest
  return ⟨hour, minute, second, microseconds fraction, offset⟩

/-- The date of which a text consists: year, month and day with hyphens between them, and perhaps
a time of day behind a letter T or blanks. -/
def readDate? (cs : List Char) : Option WrittenDate := do
  let year := cs.take 4
  if year.length < 4 || !year.all Char.isDigit then none
  let (month, monthLength, rest) ← shortNumber? 1 (← behind? '-' (cs.drop 4))
  let (day, dayLength, rest) ← shortNumber? 1 (← behind? '-' rest)
  let time ←
    match rest with
    | [] => some none
    | c :: tail =>
      if c == 'T' || c == 't' then (readTime? tail).map some
      else if c == ' ' || c == '\t' then
        (readTime? (tail.dropWhile fun c => c == ' ' || c == '\t')).map some
      else none
  return ⟨Numeral.ofDigits (year.filterMap Text.asciiDigit?), month, day,
    monthLength == 2 && dayLength == 2, time⟩

/-- Whether a text has the form of a date. Without a time of day, month and day need two
digits. -/
def hasDateForm (cs : List Char) : Bool :=
  (readDate? cs).any fun date => date.isWide || date.time.isSome

/-- The words for truth values, in lower case. -/
def truthWords : List (String × Bool) := [
  ("yes", true), ("no", false), ("true", true), ("false", false), ("on", true), ("off", false)]

/-- Whether a word is in lower case, in upper case, or begins with a capital and goes on in lower
case. -/
def isEvenlyCased (s : String) : Bool :=
  s == s.toLower || s == s.toUpper || s == s.toLower.capitalize

/-- The characters of code points, each surrogate replaced. -/
def shapes (points : List Nat) : List Char :=
  points.map Text.charOfPoint

/-- What a plain scalar is. A line feed at its end does not count, unless it is all there is. The
signs that begin anchors, aliases and tags are of a kind of their own when they stand alone. -/
def plainTag (points : List Nat) : Tag :=
  let cs := shapes points
  let cs := if cs.getLast? == some '\n' then cs.dropLast else cs
  let word := String.ofList cs
  if (truthWords.lookup word.toLower).isSome && isEvenlyCased word then .truth
  else if hasFloatForm cs then .float
  else if hasIntegerForm cs then .integer
  else if word == "<<" then .merge
  else if points.isEmpty || ["~", "null", "Null", "NULL"].contains word then .null
  else if hasDateForm cs then .date
  else if word == "=" then .default
  else if ["!", "&", "*"].contains word then .unknown
  else .text

/-! ## Values -/

/-- The integer that a text spells in a base. -/
def integerIn (base : Nat) (points : List Nat) : Except ScalarFault Int :=
  match Numeral.read base (shapes points) with
  | .ok n => .ok n
  | .error .malformed => .error (.integer base points)
  | .error (.tooLong digits) => .error (.integerTooLong digits)

/-- Code points without the underscores among them. -/
def dropUnderscores (points : List Nat) : List Nat :=
  points.filter (· != '_'.toNat)

/-- The sign of a number, and what follows it. There has to be something to look for a sign in. -/
def signedBody (points : List Nat) : Except ScalarFault (Bool × List Nat) :=
  match points with
  | [] => .error .noNumber
  | n :: rest =>
    if n = '-'.toNat then .ok (true, rest)
    else if n = '+'.toNat then .ok (false, rest)
    else .ok (false, points)

/-- The integer that a scalar stands for. -/
def integerValue (points : List Nat) : Except ScalarFault Int := do
  let (negative, body) ← signedBody (dropUnderscores points)
  let sign : Int := if negative then -1 else 1
  match shapes body with
  | [] => .error .noNumber
  | ['0'] => return 0
  | '0' :: 'b' :: _ => return sign * (← integerIn 2 (body.drop 2))
  | '0' :: 'x' :: _ => return sign * (← integerIn 16 (body.drop 2))
  | '0' :: _ => return sign * (← integerIn 8 body)
  | _ =>
    let digits ← (body.splitOn ':'.toNat).mapM (integerIn 10)
    return sign * digits.foldl (fun n d => 60 * n + d) 0

/-- The floating-point number that a text spells. -/
def floatIn (points : List Nat) : Except ScalarFault Binary64 :=
  match Binary64.ofText? (shapes points) with
  | some x => .ok x
  | none => .error (.float points)

/-- The sum of digits in base sixty, the last one first, from a power of sixty on. Each of them is
multiplied by its power, which has to be a floating-point number then. -/
def sumOfSixtieths (power : Nat) (sum : Binary64) : List Binary64 → Except ScalarFault Binary64
  | [] => .ok sum
  | digit :: rest =>
    let factor := Binary64.ofInt power
    if factor.isFinite then sumOfSixtieths (60 * power) (sum.add (digit.mul factor)) rest
    else .error .powerTooLarge

/-- Whether a scalar that is taken for a floating-point number is the usual spelling of what is no
number, in any case and with any sign. -/
def isUsualNan (points : List Nat) : Bool :=
  match signedBody (Text.lower (dropUnderscores points)) with
  | .ok (_, body) => body == Text.points ".nan".toList
  | .error _ => false

/-- The floating-point number that a scalar stands for. -/
def floatValue (points : List Nat) : Except ScalarFault Binary64 := do
  let (negative, body) ← signedBody (Text.lower (dropUnderscores points))
  let absolute ←
    if body == Text.points ".inf".toList then pure (.infinite false)
    else if body == Text.points ".nan".toList then pure .nan
    else if body.contains ':'.toNat then do
      let digits ← (body.splitOn ':'.toNat).mapM floatIn
      sumOfSixtieths 1 (.finite false 0 0) digits.reverse
    else floatIn body
  return if negative then absolute.neg else absolute

/-- The truth value that a scalar stands for. -/
def truthValue (points : List Nat) : Except ScalarFault Bool :=
  let word := Text.lower points
  match truthWords.find? fun entry => Text.points entry.1.toList == word with
  | some (_, b) => .ok b
  | none => .error (.truth word)

/-- The moment that a scalar stands for. -/
def dateValue (points : List Nat) : Except ScalarFault Moment := do
  let cs := shapes points
  let cs := if cs.getLast? == some '\n' then cs.dropLast else cs
  match readDate? cs with
  | none => .error .notADate
  | some written => do
    match written.time.bind (·.offset) with
    | some minutes =>
      if 1440 ≤ minutes.natAbs then throw (.offset minutes)
    | none => pure ()
    let date ← (Date.ofNumbers written.year written.month written.day).mapError .date
    let time ← written.time.mapM fun time => time.check.mapError ScalarFault.date
    return ⟨date, time⟩

/-- The bytes that a scalar stands for; it has to be a text of ASCII in base 64. -/
def bytesValue (points : List Nat) : Except Fault (List UInt8) :=
  if points.any (0x80 ≤ ·) then .error .malformed
  else
    match Text.Base64.decode (shapes points) with
    | some bytes => .ok bytes
    | none => .error .malformed

/-- The value of a scalar that is of a given kind. Collections and kinds that nobody knows have no
scalars. -/
def scalarValue (tag : Tag) (points : List Nat) : Except Fault Value :=
  match tag with
  | .text => .ok (.ofPoints points)
  | .null => .ok .null
  | .truth => ((truthValue points).map .bool).mapError .scalar
  | .integer => ((integerValue points).map .int).mapError .scalar
  | .float => ((floatValue points).map .float).mapError .scalar
  | .date => ((dateValue points).map .moment).mapError .scalar
  | .bytes => (bytesValue points).map .bytes
  | .sequence | .mapping | .keys | .orderedMapping | .pairs | .merge | .default | .unknown =>
    .error .malformed

end Yaml
end SchemaTypes

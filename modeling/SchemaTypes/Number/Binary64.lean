import SchemaTypes.Number.Numeral

/-!
# Floating-point numbers

A binary64 number as what it denotes: not a number, an infinity, or a sign, a significand and an
exponent of two. All arithmetic is exact arithmetic on integers followed by one rounding, to the
nearest representable number and to an even significand on a tie, so nothing here depends on the
processor.

`shortest` gives the fewest decimal digits that round back to a number, and of those the nearest;
`text` lays them out: positional from 0.0001 up to 10^16, with an exponent of at least two digits
outside that range, and always with a mark that it is no integer.
-/

namespace SchemaTypes

/-- A binary64 number. A finite one is its significand times two to the exponent. -/
inductive Binary64 where
  | nan
  | infinite (negative : Bool)
  | finite (negative : Bool) (significand : Nat) (exponent : Int)
deriving Repr, DecidableEq

namespace Binary64

/-- The number of significant bits. -/
def precision : Nat := 53

/-- The exponent of the smallest positive number. -/
def minExponent : Int := -1074

/-- The exponent of the largest numbers. -/
def maxExponent : Int := 971

/-- A quotient to the nearest integer, a tie to the even one. -/
def roundHalfEven (num den : Nat) : Nat :=
  let quotient := num / den
  let twice := 2 * (num % den)
  if den < twice || (twice == den && quotient % 2 == 1) then quotient + 1 else quotient

/-- A ratio divided by a power of two, as a ratio. -/
def scaled (num den : Nat) (exponent : Int) : Nat × Nat :=
  if 0 ≤ exponent then (num, den * Nat.pow 2 exponent.toNat)
  else (num * Nat.pow 2 (-exponent).toNat, den)

/-- The number nearest to `num / den`. -/
def ofRatio (negative : Bool) (num den : Nat) : Binary64 :=
  if num = 0 || den = 0 then .finite negative 0 0
  else
    let guess := (Nat.log2 num : Int) - Nat.log2 den - precision
    let (n, d) := scaled num den guess
    let tight := if Nat.pow 2 precision ≤ n / d then guess + 1 else guess
    let exponent := max tight minExponent
    let (n, d) := scaled num den exponent
    let significand := roundHalfEven n d
    let (significand, exponent) :=
      if significand = Nat.pow 2 precision then (Nat.pow 2 (precision - 1), exponent + 1)
      else (significand, exponent)
    if maxExponent < exponent then .infinite negative
    else if significand = 0 then .finite negative 0 0
    else .finite negative significand exponent

/-- The number nearest to an integer. -/
def ofInt (n : Int) : Binary64 :=
  ofRatio (n < 0) n.natAbs 1

/-- The number nearest to `digits` times ten to the exponent. Exponents far outside the range are
decided by the place of the first digit. -/
def ofDecimal (negative : Bool) (digits : Nat) (exponent : Int) : Binary64 :=
  let place := (Nat.toDigits 10 digits).length + exponent
  if digits = 0 then .finite negative 0 0
  else if 400 < place then .infinite negative
  else if place < -400 then .finite negative 0 0
  else if 0 ≤ exponent then ofRatio negative (digits * Nat.pow 10 exponent.toNat) 1
  else ofRatio negative digits (Nat.pow 10 (-exponent).toNat)

/-- Whether the number is one of the two zeros. -/
def isZero : Binary64 → Bool
  | .finite _ significand _ => significand == 0
  | _ => false

/-- Whether the number is finite. -/
def isFinite : Binary64 → Bool
  | .finite .. => true
  | _ => false

/-- The integer that a number is exactly, if it is one. -/
def toInt? : Binary64 → Option Int
  | .finite negative significand exponent =>
    if 0 ≤ exponent then some (Numeral.withSign negative (significand * Nat.pow 2 exponent.toNat))
    else
      let unit := Nat.pow 2 (-exponent).toNat
      if significand % unit = 0 then some (Numeral.withSign negative (significand / unit)) else none
  | _ => none

/-- A finite number as a signed numerator over a power of two. -/
def toRatio? : Binary64 → Option (Int × Nat)
  | .finite negative significand exponent =>
    if 0 ≤ exponent then
      some (Numeral.withSign negative (significand * Nat.pow 2 exponent.toNat), 1)
    else some (Numeral.withSign negative significand, Nat.pow 2 (-exponent).toNat)
  | _ => none

/-- Whether the sign of a number is minus. -/
def isNegative : Binary64 → Bool
  | .nan => false
  | .infinite negative => negative
  | .finite negative _ _ => negative

/-- The rounded product. An infinity times zero is no number. -/
def mul (x y : Binary64) : Binary64 :=
  let negative := x.isNegative != y.isNegative
  match x, y with
  | .nan, _ => .nan
  | _, .nan => .nan
  | .infinite _, y => if y.isZero then .nan else .infinite negative
  | x, .infinite _ => if x.isZero then .nan else .infinite negative
  | x, y =>
    match x.toRatio?, y.toRatio? with
    | some (a, b), some (c, d) => ofRatio negative (a * c).natAbs (b * d)
    | _, _ => .nan

/-- The rounded sum. Infinities with different signs have none, and a sum of zero is negative only
if both numbers are. -/
def add (x y : Binary64) : Binary64 :=
  match x, y with
  | .nan, _ => .nan
  | _, .nan => .nan
  | .infinite s, .infinite t => if s = t then .infinite s else .nan
  | .infinite s, _ => .infinite s
  | _, .infinite t => .infinite t
  | x, y =>
    match x.toRatio?, y.toRatio? with
    | some (a, b), some (c, d) =>
      let sum := a * d + c * b
      ofRatio (if sum = 0 then x.isNegative && y.isNegative else sum < 0) sum.natAbs (b * d)
    | _, _ => .nan

/-- The number with the other sign. -/
def neg : Binary64 → Binary64
  | .nan => .nan
  | .infinite negative => .infinite !negative
  | .finite negative significand exponent => .finite (!negative) significand exponent

/-! ## Shortest decimal digits -/

/-- The interval of ratios that round to a positive finite number, over one denominator: the lower
end, the number, the upper end, the denominator, and whether the ends belong to it. -/
structure RoundingInterval where
  low : Nat
  value : Nat
  high : Nat
  den : Nat
  closed : Bool

/-- The rounding interval of `significand * 2 ^ exponent`. Below a power of two the gap is
half. -/
def roundingInterval (significand : Nat) (exponent : Int) : RoundingInterval :=
  let below := if significand = Nat.pow 2 (precision - 1) && minExponent < exponent then 1 else 2
  let quarters := exponent - 2
  let factor := if 0 ≤ quarters then Nat.pow 2 quarters.toNat else 1
  { low := (4 * significand - below) * factor
    value := 4 * significand * factor
    high := (4 * significand + 2) * factor
    den := if 0 ≤ quarters then 1 else Nat.pow 2 (-quarters).toNat
    closed := significand % 2 == 0 }

/-- Whether `n * 10 ^ place` lies in the interval. -/
def RoundingInterval.holds (interval : RoundingInterval) (n : Nat) (place : Int) : Bool :=
  let up := if 0 ≤ place then Nat.pow 10 place.toNat else 1
  let down := if 0 ≤ place then 1 else Nat.pow 10 (-place).toNat
  let point := n * up * interval.den
  let low := interval.low * down
  let high := interval.high * down
  if interval.closed then low ≤ point && point ≤ high else low < point && point < high

/-- The power of ten of the first decimal digit of a positive ratio. -/
def firstPlace (num den : Nat) : Int :=
  let guess := ((Nat.toDigits 10 num).length : Int) - (Nat.toDigits 10 den).length
  let reaches :=
    if 0 ≤ guess then den * Nat.pow 10 guess.toNat ≤ num
    else den ≤ num * Nat.pow 10 (-guess).toNat
  if reaches then guess else guess - 1

/-- The multiple of `10 ^ place` that stands for the number on that grid: of its two neighbours
there, the nearer of those in the interval. -/
def RoundingInterval.onGrid? (interval : RoundingInterval) (place : Int) : Option Nat :=
  let up := if 0 ≤ place then Nat.pow 10 place.toNat else 1
  let down := if 0 ≤ place then 1 else Nat.pow 10 (-place).toNat
  let num := interval.value * down
  let den := interval.den * up
  let floor := num / den
  let nearest := roundHalfEven num den
  let other := if nearest = floor then floor + 1 else floor
  if interval.holds nearest place then some nearest
  else if interval.holds other place then some other
  else none

/-- Tries the grids from `count` digits on, at most `fuel` of them. -/
def RoundingInterval.shortestFrom (interval : RoundingInterval) (first : Int) :
    Nat → Nat → Nat × Int
  | 0, _ => (interval.value / interval.den, 0)
  | fuel + 1, count =>
    let place := first - count + 1
    match interval.onGrid? place with
    | some n => (n, place)
    | none => interval.shortestFrom first fuel (count + 1)

/-- The shortest decimal that rounds to a positive finite number: its digits and the power of ten
of the last one. Seventeen digits always suffice. -/
def shortest (significand : Nat) (exponent : Int) : Nat × Int :=
  let interval := roundingInterval significand exponent
  interval.shortestFrom (firstPlace interval.value interval.den) 17 1

/-! ## Layout -/

/-- An exponent with its sign and at least two digits. -/
def exponentText (n : Int) : List Char :=
  let digits := Nat.toDigits 10 n.natAbs
  (if n < 0 then '-' else '+') :: (if digits.length < 2 then '0' :: digits else digits)

/-- Lays out digits whose decimal point stands after the first `point` of them. -/
def layout (digits : List Char) (point : Int) : List Char :=
  if point ≤ -4 || 16 < point then
    match digits with
    | [] => []
    | [d] => d :: 'e' :: exponentText (point - 1)
    | d :: ds => d :: '.' :: ds ++ 'e' :: exponentText (point - 1)
  else if point ≤ 0 then
    '0' :: '.' :: List.replicate (-point).toNat '0' ++ digits
  else
    let whole := digits.take point.toNat
    let fraction := digits.drop point.toNat
    whole ++ List.replicate (point.toNat - whole.length) '0'
      ++ '.' :: (if fraction.isEmpty then ['0'] else fraction)

/-- The text of a number. -/
def text : Binary64 → String
  | .nan => "nan"
  | .infinite negative => if negative then "-inf" else "inf"
  | .finite negative significand exponent =>
    let body :=
      if significand = 0 then ['0', '.', '0']
      else
        let (n, place) := shortest significand exponent
        let digits := Nat.toDigits 10 n
        layout (Text.trimEnd (· == '0') digits) (digits.length + place)
    String.ofList (if negative then '-' :: body else body)

/-! ## Reading -/

/-- Reads digits, perhaps a point and more digits, and perhaps an exponent. -/
def readDecimal? (negative : Bool) (cs : List Char) : Option Binary64 := do
  let isDigit := fun c => (Text.asciiDigit? c).isSome
  let whole := cs.takeWhile isDigit
  let rest := cs.dropWhile isDigit
  let (fraction, rest) :=
    match rest with
    | '.' :: tail => (tail.takeWhile isDigit, tail.dropWhile isDigit)
    | _ => ([], rest)
  if whole.isEmpty && fraction.isEmpty then none
  let exponent ←
    match rest with
    | [] => some (0 : Int)
    | c :: tail => do
      if c ≠ 'e' ∧ c ≠ 'E' then none
      let (down, digits) := Numeral.splitSign tail
      if digits.isEmpty || !digits.all isDigit then none
      some (Numeral.withSign down (Numeral.ofDigits (digits.filterMap Text.asciiDigit?)))
  let digits := Numeral.ofDigits ((whole ++ fraction).filterMap Text.asciiDigit?)
  return ofDecimal negative digits (exponent - fraction.length)

/-- Takes away underscores, each of which has to stand between two digits. The first argument says
whether a digit stands in front. -/
def dropUnderscores (behindDigit : Bool) : List Char → Option (List Char)
  | [] => some []
  | c :: rest =>
    if c = '_' then
      if behindDigit && rest.head?.any Char.isDigit then dropUnderscores false rest else none
    else (dropUnderscores c.isDigit rest).map (c :: ·)

/-- Reads a number with blanks around it: a decimal, whose digits may be those of any script, or
the name of an infinity or of what is no number, in any case. -/
def ofText? (text : List Char) : Option Binary64 := do
  let bare ← dropUnderscores false (Text.trim Numeral.isBlank (text.map Numeral.asciiForm))
  let (negative, body) := Numeral.splitSign bare
  let name := String.ofList (body.map Char.toLower)
  if name = "nan" then some .nan
  else if name = "inf" || name = "infinity" then some (.infinite negative)
  else readDecimal? negative body

end Binary64
end SchemaTypes

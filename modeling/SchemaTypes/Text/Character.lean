/-!
# Classes of characters

Two classes of white space meet in this library and they are not the same set. `isWhite` is
Unicode's `White_Space` property. `isBlank` adds the four information separators U+001C to U+001F,
which only some readers of text skip. Neither holds the zero width space U+200B or the byte order
mark U+FEFF. Trimming takes its class as an argument, so each caller says which of the two it means.

Every script that has decimal digits lists its ten digits in order, so one code point, that of the
digit zero, stands for all ten. The table holds these zeros for version 14 of the Unicode
standard.

A text that is written by escapes may name any code point, and the surrogates among them are no
characters. Such a text is kept as its code points. It is a text of characters if it has no
surrogate, and two surrogates in a row do not become one character: they stay what they are.
-/

namespace SchemaTypes
namespace Text

/-! ## White space -/

/-- Unicode's `White_Space` property: 25 characters. -/
def isWhite (c : Char) : Bool :=
  let n := c.toNat
  (0x09 ≤ n && n ≤ 0x0D) || n == 0x20 || n == 0x85 || n == 0xA0 || n == 0x1680
    || (0x2000 ≤ n && n ≤ 0x200A) || n == 0x2028 || n == 0x2029 || n == 0x202F || n == 0x205F
    || n == 0x3000

/-- White space or an information separator: 29 characters. -/
def isBlank (c : Char) : Bool :=
  (0x1C ≤ c.toNat && c.toNat ≤ 0x1F) || isWhite c

/-- Drops the longest tail whose characters all satisfy `p`. -/
def trimEnd (p : Char → Bool) (cs : List Char) : List Char :=
  (cs.reverse.dropWhile p).reverse

/-- Drops the characters satisfying `p` from both ends. -/
def trim (p : Char → Bool) (cs : List Char) : List Char :=
  trimEnd p (cs.dropWhile p)

@[simp] theorem trimEnd_nil (p : Char → Bool) : trimEnd p [] = [] := rfl

/-- Trimming the end leaves a front part of the text. -/
theorem trimEnd_append_eq (p : Char → Bool) (cs : List Char) :
    ∃ tail, trimEnd p cs ++ tail = cs ∧ ∀ c ∈ tail, p c = true := by
  refine ⟨(cs.reverse.takeWhile p).reverse, ?_, ?_⟩
  · rw [trimEnd, ← List.reverse_append, List.takeWhile_append_dropWhile, List.reverse_reverse]
  · intro c hc
    rw [List.mem_reverse] at hc
    have hall : (cs.reverse.takeWhile p).all p = true := List.all_takeWhile
    exact List.all_eq_true.mp hall c hc

/-! ## Digits -/

/-- The zeros of all scripts, in increasing order of code point. -/
def decimalZeros : List Nat := [
  0x30, 0x660, 0x6F0, 0x7C0, 0x966, 0x9E6, 0xA66, 0xAE6, 0xB66, 0xBE6, 0xC66, 0xCE6, 0xD66,
  0xDE6, 0xE50, 0xED0, 0xF20, 0x1040, 0x1090, 0x17E0, 0x1810, 0x1946, 0x19D0, 0x1A80, 0x1A90,
  0x1B50, 0x1BB0, 0x1C40, 0x1C50, 0xA620, 0xA8D0, 0xA900, 0xA9D0, 0xA9F0, 0xAA50, 0xABF0, 0xFF10,
  0x104A0, 0x10D30, 0x11066, 0x110F0, 0x11136, 0x111D0, 0x112F0, 0x11450, 0x114D0, 0x11650,
  0x116C0, 0x11730, 0x118E0, 0x11950, 0x11C50, 0x11D50, 0x11DA0, 0x16A60, 0x16AC0, 0x16B50,
  0x1D7CE, 0x1D7D8, 0x1D7E2, 0x1D7EC, 0x1D7F6, 0x1E140, 0x1E2F0, 0x1E950, 0x1FBF0]

/-- The value of a decimal digit of any script. -/
def decimalValue? (c : Char) : Option Nat :=
  (decimalZeros.find? fun first => first ≤ c.toNat && c.toNat < first + 10).map (c.toNat - ·)

/-- The value of one of the ten ASCII digits. -/
def asciiDigit? (c : Char) : Option Nat :=
  if '0' ≤ c ∧ c ≤ '9' then some (c.toNat - '0'.toNat) else none

/-- The value of a hexadecimal digit, in either case. -/
def hexDigit? (c : Char) : Option Nat :=
  if '0' ≤ c ∧ c ≤ '9' then some (c.toNat - '0'.toNat)
  else if 'a' ≤ c ∧ c ≤ 'f' then some (c.toNat - 'a'.toNat + 10)
  else if 'A' ≤ c ∧ c ≤ 'F' then some (c.toNat - 'A'.toNat + 10)
  else none

/-- A hexadecimal digit in lower case; amounts from sixteen on have none and give `f`. -/
def hexChar (n : Nat) : Char :=
  if n < 10 then Char.ofNat ('0'.toNat + n)
  else if n < 16 then Char.ofNat ('a'.toNat + (n - 10))
  else 'f'

/-- The last `width` hexadecimal digits of a number, with leading zeros. -/
def hexPadded : Nat → Nat → List Char
  | 0, _ => []
  | width + 1, n => hexPadded width (n / 16) ++ [hexChar (n % 16)]

/-! ## Code points -/

/-- Whether a code point is a surrogate. -/
def isSurrogate (n : Nat) : Bool :=
  0xD800 ≤ n && n < 0xE000

/-- The code points of a text. -/
def points (cs : List Char) : List Nat :=
  cs.map Char.toNat

/-- The character of a code point. A surrogate is none, and the replacement character stands for
it where a character has to be looked at. -/
def charOfPoint (n : Nat) : Char :=
  if isSurrogate n then '\ufffd' else Char.ofNat n

/-- The characters that code points are, if there is no surrogate among them. -/
def ofPoints? (ns : List Nat) : Option (List Char) :=
  if ns.any isSurrogate then none else some (ns.map charOfPoint)

end Text
end SchemaTypes

/-!
# Base 64

Bytes written with 64 signs, four signs for three bytes. The reader is lenient: what is none of
the signs is skipped, and padding counts only where it completes a group of four; there the text
ends, whatever follows. A text that stops inside a group spells nothing.
-/

namespace SchemaTypes
namespace Text
namespace Base64

/-- The value of a sign. -/
def value? (c : Char) : Option Nat :=
  if 'A' ≤ c ∧ c ≤ 'Z' then some (c.toNat - 'A'.toNat)
  else if 'a' ≤ c ∧ c ≤ 'z' then some (c.toNat - 'a'.toNat + 26)
  else if '0' ≤ c ∧ c ≤ '9' then some (c.toNat - '0'.toNat + 52)
  else if c = '+' then some 62
  else if c = '/' then some 63
  else none

/-- Reads on from a place in a group of four, with the bits that belong to no byte yet and the
number of padding signs since the last value. -/
def decodeFrom (place bits pads : Nat) : List Char → Option (List UInt8)
  | [] => if place = 0 then some [] else none
  | c :: rest =>
    if c = '=' then
      if place < 2 then decodeFrom place bits pads rest
      else if 4 ≤ place + pads + 1 then some []
      else decodeFrom place bits (pads + 1) rest
    else
      match value? c, place with
      | none, _ => decodeFrom place bits pads rest
      | some value, 0 => decodeFrom 1 value 0 rest
      | some value, 1 =>
        (decodeFrom 2 (value % 16) 0 rest).map (UInt8.ofNat (4 * bits + value / 16) :: ·)
      | some value, 2 =>
        (decodeFrom 3 (value % 4) 0 rest).map (UInt8.ofNat (16 * bits + value / 4) :: ·)
      | some value, _ =>
        (decodeFrom 0 0 0 rest).map (UInt8.ofNat (64 * bits + value) :: ·)

/-- The bytes that a text spells. -/
def decode (cs : List Char) : Option (List UInt8) :=
  decodeFrom 0 0 0 cs

end Base64
end Text
end SchemaTypes

import SchemaTypes.Text.Character

/-!
# UTF-8

Texts from bytes and back. A reader that meets bytes which are no UTF-8 says which bytes, where,
and why: a byte that begins no sequence, a byte that does not continue the sequence it stands in,
or a sequence that the end cuts short. A sequence that would spell a surrogate, a code point
beyond the last one, or a code point in more bytes than it needs fails at its second byte.

`decodeFront` also reads bytes that stop inside a sequence, and hands back what there is of it, so
that a text can be read in parts. A sequence that would spell a surrogate counts as under way as
long as its third byte is not there; what it fails at is still the second one.
-/

namespace SchemaTypes
namespace Text
namespace Utf8

/-- The bytes of a text. -/
def encode (s : String) : List UInt8 :=
  s.toList.flatMap String.utf8EncodeChar

/-- Why bytes are no text. -/
inductive Reason where
  | invalidStart
  | invalidContinuation
  | unexpectedEnd
deriving Repr, DecidableEq

/-- The words for a reason. -/
def Reason.text : Reason → String
  | .invalidStart => "invalid start byte"
  | .invalidContinuation => "invalid continuation byte"
  | .unexpectedEnd => "unexpected end of data"

/-- The bytes that are no text, the place of the first of them, and the reason. -/
structure Fault where
  bytes : List UInt8
  position : Nat
  reason : Reason
deriving Repr, DecidableEq

/-- The text of a fault: it shows the byte if it is a single one, and else the places of the first
and the last byte. -/
def Fault.message (fault : Fault) : String :=
  let place :=
    match fault.bytes with
    | [byte] =>
      "byte 0x" ++ String.ofList (hexPadded 2 byte.toNat) ++ " in position " ++ fault.position.repr
    | bytes =>
      "bytes in position " ++ fault.position.repr ++ "-"
        ++ (fault.position + bytes.length - 1).repr
  "'utf-8' codec can't decode " ++ place ++ ": " ++ fault.reason.text

/-- Whether bytes are the first two of three that would spell a surrogate. -/
def isSurrogateStart : List UInt8 → Bool
  | [first, second] => first.toNat == 0xED && 0xA0 ≤ second.toNat && second.toNat ≤ 0xBF
  | _ => false

/-- The fault of a text that ends inside a sequence. -/
def Fault.ofEnd (pending : List UInt8) (position : Nat) : Fault :=
  if isSurrogateStart pending then ⟨pending.take 1, position, .invalidContinuation⟩
  else ⟨pending, position, .unexpectedEnd⟩

/-- A sequence under way: the bytes read, the last one first, the code point so far, the number of
bytes to come, and the range of the next one. -/
structure Sequence where
  bytes : List UInt8
  value : Nat
  missing : Nat
  low : Nat
  high : Nat

/-- The sequence that a byte begins, if it begins one of two bytes or more. -/
def Sequence.start? (byte : UInt8) : Option Sequence :=
  let n := byte.toNat
  if 0xC2 ≤ n ∧ n ≤ 0xDF then some ⟨[byte], n - 0xC0, 1, 0x80, 0xBF⟩
  else if n = 0xE0 then some ⟨[byte], 0, 2, 0xA0, 0xBF⟩
  else if n = 0xED then some ⟨[byte], 0x0D, 2, 0x80, 0x9F⟩
  else if 0xE1 ≤ n ∧ n ≤ 0xEF then some ⟨[byte], n - 0xE0, 2, 0x80, 0xBF⟩
  else if n = 0xF0 then some ⟨[byte], 0, 3, 0x90, 0xBF⟩
  else if 0xF1 ≤ n ∧ n ≤ 0xF3 then some ⟨[byte], n - 0xF0, 3, 0x80, 0xBF⟩
  else if n = 0xF4 then some ⟨[byte], 4, 3, 0x80, 0x8F⟩
  else none

/-- What bytes spell: the characters of the complete sequences, and the bytes of the sequence that
is under way at the end. -/
structure Decoded where
  chars : List Char
  pending : List UInt8
deriving Repr, DecidableEq

/-- Puts a character in front. -/
def Decoded.cons (c : Char) (decoded : Decoded) : Decoded :=
  { decoded with chars := c :: decoded.chars }

/-- Reads on from a position, perhaps inside a sequence. -/
def decodeFrom (position : Nat) : Option Sequence → List UInt8 → Except Fault Decoded
  | none, [] => .ok ⟨[], []⟩
  | some sequence, [] => .ok ⟨[], sequence.bytes.reverse⟩
  | none, byte :: rest =>
    if byte.toNat < 0x80 then
      (decodeFrom (position + 1) none rest).map (Decoded.cons (Char.ofNat byte.toNat))
    else
      match Sequence.start? byte with
      | none => .error ⟨[byte], position, .invalidStart⟩
      | some sequence => decodeFrom (position + 1) (some sequence) rest
  | some sequence, byte :: rest =>
    if sequence.low ≤ byte.toNat ∧ byte.toNat ≤ sequence.high then
      let value := 64 * sequence.value + (byte.toNat - 0x80)
      if sequence.missing ≤ 1 then
        (decodeFrom (position + 1) none rest).map (Decoded.cons (Char.ofNat value))
      else
        decodeFrom (position + 1)
          (some ⟨byte :: sequence.bytes, value, sequence.missing - 1, 0x80, 0xBF⟩) rest
    else if rest.isEmpty && isSurrogateStart (byte :: sequence.bytes).reverse then
      .ok ⟨[], (byte :: sequence.bytes).reverse⟩
    else
      .error ⟨sequence.bytes.reverse, position - sequence.bytes.length, .invalidContinuation⟩

/-- The text that bytes begin to spell. -/
def decodeFront (bytes : List UInt8) : Except Fault Decoded :=
  decodeFrom 0 none bytes

/-- The text that bytes spell. -/
def decode (bytes : List UInt8) : Except Fault (List Char) := do
  let decoded ← decodeFront bytes
  if decoded.pending.isEmpty then return decoded.chars
  else throw (.ofEnd decoded.pending (bytes.length - decoded.pending.length))

end Utf8
end Text
end SchemaTypes

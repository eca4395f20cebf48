import SchemaTypes.Text.Utf8.Chunk
import SchemaTypes.Yaml.Fault

/-!
# The text that a document is read from

A document is read while its text is, so whatever is wrong with a late part of the text counts
only if the reading gets there. A source is the text in front of the first part that cannot be
had, and the fault with which the reading ends there.

The first two blocks of a file are loaded together, and each later block when it is wanted. A
block cannot be had if its bytes are no text, or if it has a character that no document may have;
of these the bytes are the first to be looked at.
-/

namespace SchemaTypes
namespace Yaml

/-- The characters that may occur in a document. -/
def isAllowed (c : Char) : Bool :=
  let n := c.toNat
  n == 0x09 || n == 0x0A || n == 0x0D || (0x20 ≤ n && n ≤ 0x7E) || n == 0x85
    || (0xA0 ≤ n && n ≤ 0xFFFD) || 0x10000 ≤ n

/-- A text to be read, and what stands behind it if not its end. -/
structure Source where
  chars : List Char
  fault : Option Fault

namespace Source

/-- Where the part begins that is loaded together with the character at a place. -/
def loadStart (place : Nat) : Nat :=
  if place < 2 * Text.Utf8.blockSize then 0
  else place / Text.Utf8.blockSize * Text.Utf8.blockSize

/-- The source that ends with a fault in front of the part loaded at a place. -/
def endingAt (chars : List Char) (start : Nat) (fault : Fault) : Source :=
  ⟨chars.take start, some fault⟩

/-- The source that a file is. -/
def ofReading (reading : Text.Utf8.Reading) : Source :=
  let chars := reading.chars
  let strange := (chars.findIdx? (!isAllowed ·)).map loadStart
  let broken := loadStart chars.length
  match reading.fault, strange with
  | none, none => ⟨chars, none⟩
  | none, some start => endingAt chars start .malformed
  | some fault, none => endingAt chars broken (.encoding fault)
  | some fault, some start =>
    if start < broken then endingAt chars start .malformed
    else endingAt chars broken (.encoding fault)

end Source
end Yaml
end SchemaTypes

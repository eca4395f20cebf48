import SchemaTypes.Text.Line
import SchemaTypes.Text.Utf8

/-!
# A file as text

The text of a file is asked for in blocks of 4096 characters and its bytes are taken in chunks, as
many as it takes to fill the next block. A chunk has 8192 bytes, or more if the chunk before it
spelled so few characters for its bytes that more will be needed. Line ends become line feeds; a
carriage return at the end of a chunk waits for the next one, which may begin with the line feed
that belongs to it.

The bytes of a file may be no text. That shows when the chunk is taken in which the fault lies, so
what was read before is text all the same: `Reading` keeps it beside the fault. The place in the
fault is counted from the beginning of that chunk, or of the sequence that the chunk goes on with;
a sequence that the end of the file cuts short is a chunk of its own.
-/

namespace SchemaTypes
namespace Text
namespace Utf8

/-- The number of characters that are asked for at a time. -/
def blockSize : Nat := 4096

/-- The number of bytes that are taken at a time, at least. -/
def chunkSize : Nat := 8192

/-- How far a file has been read. -/
structure Progress where
  /-- The bytes of a sequence that is under way. -/
  pending : List UInt8
  /-- Whether a carriage return waits for what follows it. -/
  holdsReturn : Bool
  /-- The number of characters so far. -/
  count : Nat
  /-- The numbers of bytes and of characters of the chunk before. -/
  last : Nat × Nat

/-- The size of the next chunk: enough bytes for the rest of the block, if they spell characters
at the rate of the bytes before. -/
def Progress.nextSize (progress : Progress) : Nat :=
  let missing := blockSize - progress.count % blockSize
  max chunkSize (progress.last.1 * missing / progress.last.2)

/-- The text of a chunk and the progress behind it. The chunk behind the last one is empty. -/
def Progress.take (progress : Progress) (chunk : List UInt8) :
    Except Fault (List Char × Progress) := do
  let isEnd := chunk.isEmpty
  let decoded ← decodeFront (progress.pending ++ chunk)
  if isEnd && !decoded.pending.isEmpty then throw (.ofEnd decoded.pending 0)
  let chars := decoded.chars
  let chars := if progress.holdsReturn && (isEnd || !chars.isEmpty) then '\r' :: chars else chars
  let waits := !isEnd && chars.getLast? == some '\r'
  let text := unifyLineFeeds (if waits then chars.dropLast else chars)
  return (text,
    { pending := decoded.pending
      holdsReturn := waits || (progress.holdsReturn && decoded.chars.isEmpty && !isEnd)
      count := progress.count + text.length
      last := (chunk.length, text.length) })

/-- The text of a file, up to a fault if there is one. -/
structure Reading where
  chars : List Char
  fault : Option Fault

/-- Reads on. Every chunk but the last one has a byte. -/
def readFrom : Nat → Progress → List UInt8 → Reading
  | 0, _, _ => ⟨[], none⟩
  | steps + 1, progress, bytes =>
    let chunk := bytes.take progress.nextSize
    match progress.take chunk with
    | .error fault => ⟨[], some fault⟩
    | .ok (text, behind) =>
      if chunk.isEmpty then ⟨text, none⟩
      else
        let others := readFrom steps behind (bytes.drop progress.nextSize)
        { others with chars := text ++ others.chars }

/-- Reads the bytes of a file. -/
def read (bytes : List UInt8) : Reading :=
  readFrom (bytes.length + 1) ⟨[], false, 0, (0, 0)⟩ bytes

end Utf8
end Text
end SchemaTypes

import SchemaTypes.Yaml.Source

/-!
# A place in a YAML text

A cursor is what is left of a source together with its line and column and with the number of
characters already read; YAML needs the column because indentation is structure, and the line
because a key and its colon share one. The text is expected with its line ends unified, so a
carriage return never occurs.

Reading is a computation on the cursor. It may look at the characters that follow and move behind
them, and it ends with the fault of the source as soon as it looks or moves to a place that cannot
be had. So wherever a reading stands, it can see the character there, or the text ends.

Three notions of an end are told apart, and the end of the text counts for all of them: `endsLine`
accepts a line break, `endsWord` also a space, and `isGap` also a tab.
-/

namespace SchemaTypes
namespace Yaml

/-- The characters that break a line. -/
def isBreak (c : Char) : Bool :=
  c == '\n' || c == '\u0085' || c == '\u2028' || c == '\u2029'

/-- Whether a line ends here. -/
def endsLine : Option Char → Bool
  | none => true
  | some c => isBreak c

/-- Whether a word ends here. -/
def endsWord : Option Char → Bool
  | none => true
  | some c => c == ' ' || isBreak c

/-- Whether there is white space here. -/
def isGap : Option Char → Bool
  | none => true
  | some c => c == ' ' || c == '\t' || isBreak c

/-- A space or a tab. -/
def isIndentation (c : Char) : Bool :=
  c == ' ' || c == '\t'

/-- Letters, digits, hyphen and underscore. -/
def isWordChar (c : Char) : Bool :=
  c.isAlphanum || c == '-' || c == '_'

/-- A place in a text. -/
structure Cursor where
  rest : List Char
  /-- What stands behind the rest, if not the end of the text. -/
  fault : Option Fault
  line : Nat
  column : Nat
  index : Nat
  /-- The number of characters of the whole source. -/
  size : Nat

/-- The beginning of a source. -/
def Cursor.start (source : Source) : Cursor where
  rest := source.chars
  fault := source.fault
  line := 0
  column := 0
  index := 0
  size := source.chars.length

/-- The place behind the next character. A byte order mark takes no column. -/
def Cursor.next (cursor : Cursor) : Cursor :=
  match cursor.rest with
  | [] => cursor
  | c :: rest =>
    let index := cursor.index + 1
    if isBreak c then { cursor with rest, index, line := cursor.line + 1, column := 0 }
    else if c == '\ufeff' then { cursor with rest, index }
    else { cursor with rest, index, column := cursor.column + 1 }

/-- A reading at a cursor. -/
abbrev Scan := StateT Cursor (Except Fault)

namespace Scan

/-- Ends the reading. -/
def malformed {α : Type} : Scan α :=
  throw .malformed

/-- Makes sure that the character so many places on can be had, or the text ends before it. -/
def demand (n : Nat) : Scan Unit := do
  let cursor ← get
  match cursor.fault with
  | some fault => if (cursor.rest.drop n).isEmpty then throw fault
  | none => return ()

/-- The character here. -/
def peek : Scan (Option Char) := do
  return (← get).rest.head?

/-- The character so many places on. -/
def peekAt (n : Nat) : Scan (Option Char) := do
  demand n
  return (← get).rest[n]?

/-- Whether a given character is here. -/
def sees (c : Char) : Scan Bool := do
  return (← peek) == some c

/-- Moves behind the next character. -/
def next : Scan Unit := do
  modify Cursor.next
  demand 0

/-- Moves on by so many characters. -/
def skip : Nat → Scan Unit
  | 0 => return ()
  | n + 1 => do
    next
    skip n

/-- Reads the longest run of characters of a class. -/
def span (p : Char → Bool) : Scan (List Char) := do
  let run := (← get).rest.takeWhile p
  skip run.length
  return run

/-- Moves behind a run of characters of a class. -/
def skipWhile (p : Char → Bool) : Scan Unit := do
  let _ ← span p

/-- Moves behind the spaces here. -/
def skipSpaces : Scan Unit :=
  skipWhile (· == ' ')

/-- Moves behind a comment, if one begins here. -/
def skipComment : Scan Unit := do
  if ← sees '#' then skipWhile (!isBreak ·)

/-- Whether a line break is here. -/
def atBreak : Scan Bool := do
  return (← peek).any isBreak

/-- Reads the line break here, if there is one. A next-line character becomes a line feed. -/
def takeBreak : Scan (List Char) := do
  match ← peek with
  | some c =>
    if isBreak c then do
      next
      return [if c == '\u0085' then '\n' else c]
    else return []
  | none => return []

/-- Whether the three characters here are a mark between documents, with white space behind it. -/
def atMark : Scan Bool := do
  demand 2
  match (← get).rest with
  | '-' :: '-' :: '-' :: _ => return isGap (← peekAt 3)
  | '.' :: '.' :: '.' :: _ => return isGap (← peekAt 3)
  | _ => return false

/-- A bound for the number of steps of a reading in which every step but the last takes a
character. -/
def steps : Scan Nat := do
  return (← get).size + 1

end Scan
end Yaml
end SchemaTypes

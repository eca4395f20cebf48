import SchemaTypes.Yaml.Cursor

/-!
# Block scalars

A scalar that consists of whole lines, indented below its header. The header says whether single
line breaks are kept or folded into spaces, what becomes of the breaks at the end, and perhaps how
far the lines are indented; otherwise the deepest of the blank lines in front and the first line
with content say it. A break next to a line that begins with white space is never folded.
-/

namespace SchemaTypes
namespace Yaml
namespace Block

/-- What becomes of the line breaks at the end. -/
inductive Chomping where
  /-- One of them is kept. -/
  | clip
  /-- None is kept. -/
  | strip
  /-- All are kept. -/
  | keep
deriving Repr, DecidableEq

/-- The chomping that a sign asks for. -/
def Chomping.ofSign? : Char → Option Chomping
  | '+' => some .keep
  | '-' => some .strip
  | _ => none

/-- A header. -/
structure Header where
  chomping : Chomping
  /-- By how much the lines are indented, if the header says it. -/
  increment : Option Nat

/-- Reads a sign for the chomping, if there is one. -/
def chomping? : Scan (Option Chomping) := do
  match (← Scan.peek).bind Chomping.ofSign? with
  | some chomping => do
    Scan.next
    return some chomping
  | none => return none

/-- Reads a digit for the indentation, if there is one. It must not be a zero. -/
def increment? : Scan (Option Nat) := do
  match ← Scan.peek with
  | some c =>
    if c = '0' then Scan.malformed
    else if c.isDigit then do
      Scan.next
      return some (c.toNat - '0'.toNat)
    else return none
  | none => return none

/-- Reads the signs of a header, in either order. -/
def signs : Scan Header := do
  match ← chomping? with
  | some chomping => return ⟨chomping, ← increment?⟩
  | none => do
    match ← increment? with
    | some n => return ⟨(← chomping?).getD .clip, some n⟩
    | none => return ⟨.clip, none⟩

/-- Reads a header with the rest of its line, in which only a comment may stand. -/
def header : Scan Header := do
  let header ← signs
  if !endsWord (← Scan.peek) then Scan.malformed
  Scan.skipSpaces
  Scan.skipComment
  if !endsLine (← Scan.peek) then Scan.malformed
  let _ ← Scan.takeBreak
  return header

/-- The blank lines in front of the first line with content, and the deepest column in them and
before that line. -/
def leadingBreaks : Nat → Nat → Scan (List Char × Nat)
  | 0, deepest => return ([], deepest)
  | steps + 1, deepest => do
    Scan.skipSpaces
    let deepest := max deepest (← get).column
    if ← Scan.atBreak then do
      let first ← Scan.takeBreak
      let (others, deepest) ← leadingBreaks steps deepest
      return (first ++ others, deepest)
    else return ([], deepest)

/-- Moves behind at most so many columns of indentation. -/
def skipIndentation (indent : Nat) : Scan Unit := do
  let cursor ← get
  Scan.skip ((cursor.rest.take (indent - cursor.column)).takeWhile (· == ' ')).length

/-- The breaks of blank lines, whose indentation is skipped. -/
def breaks (indent : Nat) : Nat → Scan (List Char)
  | 0 => return []
  | steps + 1 => do
    skipIndentation indent
    if ← Scan.atBreak then return (← Scan.takeBreak) ++ (← breaks indent steps) else return []

/-- Whether a line with content begins here. -/
def atContent (indent : Nat) : Scan Bool := do
  return (← get).column == indent && (← Scan.peek).isSome

/-- Reads the lines; the first of them stands here. -/
def lines (folded : Bool) (chomping : Chomping) (indent : Nat) : Nat → Scan (List Char)
  | 0 => return []
  | steps + 1 => do
    let isIndented := (← Scan.peek).any isIndentation
    let line ← Scan.span (!isBreak ·)
    let first ← Scan.takeBreak
    let others ← breaks indent steps
    if ← atContent indent then do
      let even := !isIndented && !(← Scan.peek).any isIndentation
      let joint :=
        if folded && even && first == ['\n'] then (if others.isEmpty then [' '] else []) else first
      return line ++ joint ++ others ++ (← lines folded chomping indent steps)
    else
      match chomping with
      | .clip => return line ++ first
      | .strip => return line
      | .keep => return line ++ first ++ others

/-- Reads the blank lines behind a header, and says how far the lines below them are indented. -/
def beginning (level : Nat) (header : Header) : Scan (List Char × Nat) := do
  let least := max level 1
  let steps ← Scan.steps
  match header.increment with
  | none => do
    let (before, deepest) ← leadingBreaks steps 0
    return (before, max least deepest)
  | some increment => do
    let indent := least + increment - 1
    return (← breaks indent steps, indent)

/-- Reads a block scalar whose indicator is here, inside a collection whose content stands at the
given column or to the right of it. -/
def read (folded : Bool) (level : Nat) : Scan (List Char) := do
  Scan.next
  let header ← header
  let (before, indent) ← beginning level header
  if ← atContent indent then
    return before ++ (← lines folded header.chomping indent (← Scan.steps))
  else return if header.chomping = .keep then before else []

end Block
end Yaml
end SchemaTypes

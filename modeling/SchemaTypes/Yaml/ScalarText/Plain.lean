import SchemaTypes.Yaml.Cursor

/-!
# Plain scalars

A scalar without quotes. It consists of words; between two words there are spaces, or line breaks
that are folded as in quotes. It ends at a comment, at a colon with white space behind it, at a
mark between documents, and where a line is indented less than the collection around it. Inside
brackets the characters that structure a flow collection end it too, and a colon in front of one
of them.

A tab ends a word and is skipped nowhere, so no scalar goes on behind one.
-/

namespace SchemaTypes
namespace Yaml
namespace Plain

/-- Whether a plain scalar may begin here. -/
def begins (inFlow : Bool) : Scan Bool := do
  match ← Scan.peek with
  | none => return false
  | some c =>
    if !(isGap (some c) || "-?:,[]\x7b\x7d#&*!|>'\"%@\x60".toList.contains c) then return true
    else if isGap (← Scan.peekAt 1) then return false
    else return c == '-' || (!inFlow && (c == '?' || c == ':'))

/-- The characters that end a word inside brackets. -/
def flowEnds : List Char := [',', '?', '[', ']', '\x7b', '\x7d']

/-- The characters before which a colon is no part of a word inside brackets. -/
def flowColonEnds : List Char := [',', '[', ']', '\x7b', '\x7d']

/-- The length of the word at the beginning of a text. -/
def wordLength (inFlow : Bool) : List Char → Nat
  | [] => 0
  | c :: rest =>
    let closesKey :=
      c == ':' && (isGap rest.head? || (inFlow && rest.head?.any flowColonEnds.contains))
    if isGap (some c) || closesKey || (inFlow && flowEnds.contains c) then 0
    else wordLength inFlow rest + 1

/-- Reads the word here. If a colon ends it, what stands behind the colon has been looked at. -/
def word (inFlow : Bool) : Scan (List Char) := do
  let cursor ← get
  let length := wordLength inFlow cursor.rest
  if cursor.rest[length]? == some ':' then Scan.demand (length + 1)
  Scan.skip length
  return cursor.rest.take length

/-- What stands between two words. -/
structure Joint where
  /-- The text that joins the words; nothing if the scalar cannot go on. -/
  text : List Char
  /-- Whether a line has ended. -/
  newLine : Bool

/-- The further line breaks, with the spaces between them skipped; nothing if a mark between
documents stands behind one of them. -/
def breaks : Nat → Scan (Option (List Char))
  | 0 => return some []
  | steps + 1 => do
    Scan.skipSpaces
    if ← Scan.atBreak then do
      let first ← Scan.takeBreak
      if ← Scan.atMark then return none else return (← breaks steps).map (first ++ ·)
    else return some []

/-- Reads what stands behind a word. -/
def joint (steps : Nat) : Scan Joint := do
  let spaces ← Scan.span (· == ' ')
  if ← Scan.atBreak then do
    let first ← Scan.takeBreak
    if ← Scan.atMark then return ⟨[], true⟩
    else
      match ← breaks steps with
      | none => return ⟨[], true⟩
      | some others =>
        let text :=
          if first ≠ ['\n'] then first ++ others else if others.isEmpty then [' '] else others
        return ⟨text, true⟩
  else return ⟨spaces, false⟩

/-- A scalar that has been read. -/
structure Reading where
  text : List Char
  /-- Whether the last thing read was the end of a line. -/
  newLine : Bool

/-- Reads words, the first of them behind `before`. -/
def words (inFlow : Bool) (level : Nat) (before : Joint) : Nat → Scan Reading
  | 0 => return ⟨[], before.newLine⟩
  | steps + 1 => do
    if ← Scan.sees '#' then return ⟨[], before.newLine⟩
    else do
      let word ← word inFlow
      if word.isEmpty then return ⟨[], before.newLine⟩
      else do
        let behind ← joint steps
        let ends := (← Scan.sees '#') || (!inFlow && (← get).column < level)
        if behind.text.isEmpty || ends then return ⟨before.text ++ word, behind.newLine⟩
        else do
          let others ← words inFlow level behind steps
          return { others with text := before.text ++ word ++ others.text }

/-- Reads the plain scalar here. Outside brackets its lines have to begin at the given column or
to the right of it. -/
def read (inFlow : Bool) (level : Nat) : Scan Reading := do
  words inFlow level ⟨[], false⟩ (← Scan.steps)

end Plain
end Yaml
end SchemaTypes

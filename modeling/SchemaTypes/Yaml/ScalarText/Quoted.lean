import SchemaTypes.Text.Character
import SchemaTypes.Yaml.Cursor

/-!
# Quoted scalars

A scalar in single or double quotes. Between single quotes a doubled quote stands for one; between
double quotes a backslash begins an escape. In both, a line break with the white space around it
is folded: one break becomes a space, and of several all but the first are kept. A mark between
documents may not stand at the beginning of a line inside.

The functions here take the number of steps they may use; every step reads a character, so the
length of the text is enough.
-/

namespace SchemaTypes
namespace Yaml
namespace Quoted

/-- What a letter behind a backslash stands for. -/
def escapes : List (Char × Char) := [
  ('0', '\x00'), ('a', '\x07'), ('b', '\x08'), ('t', '\t'), ('\t', '\t'), ('n', '\n'),
  ('v', '\x0b'), ('f', '\x0c'), ('r', '\r'), ('e', '\x1b'), (' ', ' '), ('"', '"'),
  ('\\', '\\'), ('/', '/'), ('N', '\u0085'), ('_', '\u00a0'), ('L', '\u2028'), ('P', '\u2029')]

/-- The number of hexadecimal digits behind a letter that announces a code point. -/
def codeLength? : Char → Option Nat
  | 'x' => some 2
  | 'u' => some 4
  | 'U' => some 8
  | _ => none

/-- Looks at hexadecimal digits from a place on, and gives the number they spell behind the digits
before them. -/
def hexNumber (before : Nat) (place : Nat) : Nat → Scan Nat
  | 0 => return before
  | length + 1 => do
    match (← Scan.peekAt place).bind Text.hexDigit? with
    | some digit => hexNumber (16 * before + digit) (place + 1) length
    | none => Scan.malformed

/-- The line breaks that follow, with the white space at the beginning of their lines skipped. -/
def breaks : Nat → Scan (List Char)
  | 0 => return []
  | steps + 1 => do
    if ← Scan.atMark then Scan.malformed
    Scan.skipWhile isIndentation
    if ← Scan.atBreak then return (← Scan.takeBreak) ++ (← breaks steps) else return []

/-- What stands for one line break and the breaks behind it. -/
def fold (first others : List Char) : List Char :=
  if first ≠ ['\n'] then first ++ others
  else if others.isEmpty then [' ']
  else others

/-- White space inside the quotes, folded if a line ends in it. -/
def whiteSpace (steps : Nat) : Scan (List Char) := do
  let run ← Scan.span isIndentation
  match ← Scan.peek with
  | none => Scan.malformed
  | some c =>
    if isBreak c then return fold (← Scan.takeBreak) (← breaks steps) else return run

/-- What stands behind a backslash: the code points it is for. -/
def escape (steps : Nat) : Scan (List Nat) := do
  match ← Scan.peek with
  | none => Scan.malformed
  | some c =>
    match escapes.lookup c, codeLength? c with
    | some char, _ => do
      Scan.next
      return [char.toNat]
    | none, some length => do
      Scan.next
      let n ← hexNumber 0 0 length
      if 0x10FFFF < n then throw (.scalar (.codePoint n))
      Scan.skip length
      return [n]
    | none, none => do
      if !isBreak c then Scan.malformed
      let _ ← Scan.takeBreak
      return Text.points (← breaks steps)

/-- Reads up to the closing quote and moves behind it. -/
def body (quote : Char) : Nat → Scan (List Nat)
  | 0 => Scan.malformed
  | steps + 1 => do
    match ← Scan.peek with
    | none => Scan.malformed
    | some c =>
      if c = quote then
        if quote = '\'' && (← Scan.peekAt 1) == some '\'' then do
          Scan.skip 2
          return '\''.toNat :: (← body quote steps)
        else do
          Scan.next
          return []
      else if isIndentation c || isBreak c then
        return Text.points (← whiteSpace steps) ++ (← body quote steps)
      else if quote = '"' && c = '\\' then do
        Scan.next
        return (← escape steps) ++ (← body quote steps)
      else do
        Scan.next
        return c.toNat :: (← body quote steps)

/-- Reads a quoted scalar whose opening quote is here. -/
def read (quote : Char) : Scan (List Nat) := do
  Scan.next
  body quote (← Scan.steps)

end Quoted
end Yaml
end SchemaTypes

import SchemaTypes.Number.Numeral
import SchemaTypes.Text.Utf8
import SchemaTypes.Yaml.Cursor
import SchemaTypes.Yaml.Token

/-!
# Anchors, tags and directives

The parts of a stream that are not content: the names that mark a node and refer to it, the tags
that say what a node is, and the directives in front of a document.
-/

namespace SchemaTypes
namespace Yaml

/-- Ends the reading unless the character here is one of those that may follow. -/
def closeWith (mayFollow : Option Char → Bool) : Scan Unit := do
  if !mayFollow (← Scan.peek) then Scan.malformed

/-- Reads the name behind the sign of an anchor or an alias. -/
def anchorName : Scan String := do
  Scan.next
  let name ← Scan.span isWordChar
  if name.isEmpty then Scan.malformed
  closeWith fun c => isGap c || c.any "?:,]\x7d%@\x60".toList.contains
  return String.ofList name

/-! ## Tags -/

/-- The characters of a tag besides letters and digits. -/
def tagSigns : List Char := "-;/?:@&=+$,_.!~*'()[]%".toList

/-- A hexadecimal digit so many places on. -/
def hexDigitAt (n : Nat) : Scan Nat := do
  match (← Scan.peekAt n).bind Text.hexDigit? with
  | some digit => return digit
  | none => Scan.malformed

/-- The bytes that escapes of the form `%XX` spell. -/
def escapedBytes : Nat → Scan (List UInt8)
  | 0 => return []
  | steps + 1 => do
    if ← Scan.sees '%' then do
      Scan.next
      let high ← hexDigitAt 0
      let low ← hexDigitAt 1
      Scan.skip 2
      return UInt8.ofNat (16 * high + low) :: (← escapedBytes steps)
    else return []

/-- The characters of a tag, with escapes read as UTF-8. -/
def tagChars : Nat → Scan (List Char)
  | 0 => return []
  | steps + 1 => do
    match ← Scan.peek with
    | some '%' => do
      match Text.Utf8.decode (← escapedBytes steps) with
      | .error _ => Scan.malformed
      | .ok chars => return chars ++ (← tagChars steps)
    | some c =>
      if c.isAlphanum || tagSigns.contains c then do
        Scan.next
        return c :: (← tagChars steps)
      else return []
    | none => return []

/-- Reads the characters of a tag; there has to be one at least. -/
def tagText : Scan String := do
  let chars ← tagChars (← Scan.steps)
  if chars.isEmpty then Scan.malformed
  return String.ofList chars

/-- Reads a tag handle: an exclamation mark, or a word between two of them. -/
def tagHandle : Scan String := do
  if !(← Scan.sees '!') then Scan.malformed
  Scan.next
  if ← Scan.sees ' ' then return "!"
  else do
    let word ← Scan.span isWordChar
    if !(← Scan.sees '!') then Scan.malformed
    Scan.next
    return String.ofList ('!' :: word ++ ['!'])

/-- Whether the word here, which begins with an exclamation mark, has another one. -/
def hasHandle : Scan Bool := do
  let behind := (← get).rest.drop 1
  let length := (behind.takeWhile fun c => c != '!' && !endsWord (some c)).length
  return (← Scan.peekAt (length + 1)) == some '!'

/-- Reads a tag in front of a node. -/
def tag : Scan Token := do
  let second ← Scan.peekAt 1
  let token ←
    if second == some '<' then do
      Scan.skip 2
      let text ← tagText
      closeWith (· == some '>')
      Scan.next
      pure (Token.tag none text)
    else if isGap second then do
      Scan.next
      pure (Token.tag none "!")
    else if ← hasHandle then do
      let handle ← tagHandle
      pure (Token.tag (some handle) (← tagText))
    else do
      Scan.next
      pure (Token.tag (some "!") (← tagText))
  closeWith endsWord
  return token

/-! ## Directives -/

/-- Reads a number of a version. -/
def versionNumber : Scan Nat := do
  let cursor ← get
  let digits := cursor.rest.takeWhile Char.isDigit
  Scan.demand digits.length
  if digits.isEmpty then Scan.malformed
  if Numeral.maxDigits < digits.length then throw (.scalar (.integerTooLong digits.length))
  Scan.skip digits.length
  return Numeral.ofDigits (digits.filterMap Text.asciiDigit?)

/-- Reads the version that a document is written for. -/
def version : Scan Directive := do
  Scan.skipSpaces
  let major ← versionNumber
  closeWith (· == some '.')
  Scan.next
  let minor ← versionNumber
  closeWith endsWord
  return .version major minor

/-- Reads a tag handle and what it abbreviates. -/
def tagDirective : Scan Directive := do
  Scan.skipSpaces
  let handle ← tagHandle
  closeWith (· == some ' ')
  Scan.skipSpaces
  let expansion ← tagText
  closeWith endsWord
  return .tag handle expansion

/-- Reads a directive with the rest of its line, in which only a comment may stand. -/
def directive : Scan Token := do
  Scan.next
  let name ← Scan.span isWordChar
  if name.isEmpty then Scan.malformed
  closeWith endsWord
  let directive ←
    match String.ofList name with
    | "YAML" => version
    | "TAG" => tagDirective
    | _ => do
      Scan.skipWhile (!isBreak ·)
      pure .other
  Scan.skipSpaces
  Scan.skipComment
  closeWith endsLine
  let _ ← Scan.takeBreak
  return .directive directive

end Yaml
end SchemaTypes

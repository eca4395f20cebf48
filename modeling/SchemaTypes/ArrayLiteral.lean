import SchemaTypes.Text.Character
import SchemaTypes.Value

/-!
# Array literals

The labels of an enum arrive either as a list or as an array literal such as
`{draft,"in review"}`. The body of a literal is scanned once, from left to right. A backslash
takes the next character as it is; a double quote opens or closes a quoted part and leaves no
trace; a comma outside quotes ends an item. A literal need not be well formed: quotes may be left
open, a last backslash is dropped, and whatever stands after the last comma is the last item, so a
body has one item more than it has commas that separate.

The state of the scan is what has been read: the finished items, the item under way, and the two
flags. One character changes it by `step`, so scanning a text is a fold.
-/

namespace SchemaTypes
namespace ArrayLiteral

/-- The state of a scan. -/
structure Scan where
  /-- The finished items, the last one first. -/
  done : List (List Char)
  /-- The characters of the item under way, the last one first. -/
  current : List Char
  inQuotes : Bool
  escaped : Bool
deriving Repr, DecidableEq

namespace Scan

/-- Nothing read yet. -/
def start : Scan := ⟨[], [], false, false⟩

/-- Takes a character into the item under way. -/
def take (scan : Scan) (c : Char) : Scan :=
  { scan with current := c :: scan.current, escaped := false }

/-- Reads one character. -/
def step (scan : Scan) (c : Char) : Scan :=
  if scan.escaped then scan.take c
  else if c = '\\' then { scan with escaped := true }
  else if c = '"' then { scan with inQuotes := !scan.inQuotes }
  else if c = ',' ∧ scan.inQuotes = false then
    { scan with done := scan.current.reverse :: scan.done, current := [] }
  else scan.take c

/-- Reads a text. -/
def run (scan : Scan) (cs : List Char) : Scan :=
  cs.foldl step scan

/-- The items, the one under way being the last. -/
def items (scan : Scan) : List (List Char) :=
  (scan.current.reverse :: scan.done).reverse

end Scan

/-- The items of a body; an empty body has none. -/
def bodyItems (body : List Char) : List (List Char) :=
  if body.isEmpty then [] else (Scan.start.run body).items

/-- Takes away one pair of braces, if the text begins and ends with them. -/
def dropBraces (cs : List Char) : List Char :=
  if cs.head? == some '\x7b' && cs.getLast? == some '\x7d' then cs.tail.dropLast else cs

/-- The items of a text, in braces or not; blanks around it are skipped. -/
def textItems (text : String) : List String :=
  (bodyItems (dropBraces (Text.trim Text.isBlank text.toList))).map String.ofList

/-- The labels that a value stands for: the texts of a list, no label for null, and otherwise the
items of the value's text. -/
def labels : Value → List String
  | .null => []
  | .list values => values.map (·.toText)
  | value => textItems value.toText

end ArrayLiteral
end SchemaTypes

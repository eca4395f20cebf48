import SchemaTypes.Date
import SchemaTypes.Number.Binary64
import SchemaTypes.Text.Display

/-!
# Values

The values that come from outside: the fields of a database row, and what a configuration file
holds. Their kind is not known beforehand, so every use of one checks it.

`Value.toText` is the text a value becomes where a text is wanted; `Value.display` is how it looks
inside a collection, where texts stand in quotes. A value is empty when it is null, false, a zero,
or a text, bytes or a collection without content.

A text that names surrogates by escapes is no text of characters; it is kept apart as a broken
text, so that whoever wants a text can refuse it.
-/

namespace SchemaTypes

/-- A value of a kind that is known only when it is looked at. -/
inductive Value where
  | null
  | bool (b : Bool)
  | int (n : Int)
  | float (x : Binary64)
  | text (s : String)
  /-- Code points with a surrogate among them. -/
  | brokenText (points : List Nat)
  | bytes (content : List UInt8)
  | moment (m : Moment)
  | list (items : List Value)
  | map (entries : List (Value × Value))
deriving Repr, Inhabited

namespace Value

/-- The text that code points spell, broken if there is a surrogate among them. -/
def ofPoints (points : List Nat) : Value :=
  match Text.ofPoints? points with
  | some cs => .text (String.ofList cs)
  | none => .brokenText points

/-- Whether a value counts as absent. -/
def isEmpty : Value → Bool
  | .null => true
  | .bool b => !b
  | .int n => n == 0
  | .float x => x.isZero
  | .text s => s.isEmpty
  | .brokenText points => points.isEmpty
  | .bytes content => content.isEmpty
  | .moment _ => false
  | .list items => items.isEmpty
  | .map entries => entries.isEmpty

/-- The name of the kind of a value. -/
def kindName : Value → String
  | .null => "NoneType"
  | .bool _ => "bool"
  | .int _ => "int"
  | .float _ => "float"
  | .text _ => "str"
  | .brokenText _ => "str"
  | .bytes _ => "bytes"
  | .moment m => if m.time.isSome then "datetime" else "date"
  | .list _ => "list"
  | .map _ => "dict"

mutual

/-- How a value looks inside a collection. -/
def display : Value → String
  | .null => "None"
  | .bool b => if b then "True" else "False"
  | .int n => n.repr
  | .float x => x.text
  | .text s => Text.display s
  | .brokenText points => Text.displayPoints points
  | .bytes content => Text.displayBytes content
  | .moment m => m.textWith " "
  | .list items => "[" ++ ", ".intercalate (displayItems items) ++ "]"
  | .map entries => "\x7b" ++ ", ".intercalate (displayEntries entries) ++ "\x7d"

/-- The items of a list, each as it looks inside a collection. -/
def displayItems : List Value → List String
  | [] => []
  | item :: rest => item.display :: displayItems rest

/-- The entries of a map: key, colon, value. -/
def displayEntries : List (Value × Value) → List String
  | [] => []
  | (key, value) :: rest => (key.display ++ ": " ++ value.display) :: displayEntries rest

end

/-- The text that a value becomes: a text is itself. -/
def toText : Value → String
  | .text s => s
  | value => value.display

/-- The text inside a value, if it is one. -/
def text? : Value → Option String
  | .text s => some s
  | _ => none

/-- The entries of a value that is a map. -/
def entries? : Value → Option (List (Value × Value))
  | .map entries => some entries
  | _ => none

/-- Whether a value is exactly the given text. -/
def isText (value : Value) (s : String) : Bool :=
  match value with
  | .text t => t == s
  | _ => false

/-- A number as a signed ratio: truth values count as zero and one. -/
def toRatio? : Value → Option (Int × Nat)
  | .bool b => some (if b then 1 else 0, 1)
  | .int n => some (n, 1)
  | .float x => x.toRatio?
  | _ => none

/-- Whether two scalars are the same key of a map. Numbers are compared by their value, whatever
their kind, and no number is the same as one that is not a number. -/
def sameKey (a b : Value) : Bool :=
  match a.toRatio?, b.toRatio? with
  | some (n, d), some (m, e) => n * e == m * d
  | _, _ =>
    match a, b with
    | .null, .null => true
    | .text s, .text t => s == t
    | .brokenText points, .brokenText others => points == others
    | .bytes content, .bytes other => content == other
    | .moment m, .moment n => m.isSame n
    | .float (.infinite s), .float (.infinite t) => s == t
    | _, _ => false

/-- Writes an entry into a map: a known key keeps its place and its first spelling. -/
def insertEntry (key value : Value) : List (Value × Value) → List (Value × Value)
  | [] => [(key, value)]
  | (known, old) :: rest =>
    if known.sameKey key then (known, value) :: rest
    else (known, old) :: insertEntry key value rest

/-- The value that a map holds under a text. -/
def field? (entries : List (Value × Value)) (name : String) : Option Value :=
  (entries.find? fun entry => entry.1.isText name).map (·.2)

end Value
end SchemaTypes

/-!
# Tags

What a node is. A tag is a text; the ones below are the tags of a common set that every reader
knows, and a node with any other tag has no value.
-/

namespace SchemaTypes
namespace Yaml

/-- The kinds of nodes. -/
inductive Tag where
  | text
  | null
  | truth
  | integer
  | float
  | date
  /-- Bytes in base 64. -/
  | bytes
  | sequence
  | mapping
  /-- A collection of keys. -/
  | keys
  /-- A list of single entries, each with a key of its own. -/
  | orderedMapping
  /-- A list of single entries. -/
  | pairs
  /-- The key under which a mapping takes over the entries of others. -/
  | merge
  /-- The key for the value that a mapping stands for where a scalar is wanted. -/
  | default
  | unknown
deriving Repr, DecidableEq

namespace Tag

/-- Whether a kind is one of collections. -/
def isCollection : Tag → Bool
  | .sequence | .mapping | .keys | .orderedMapping | .pairs => true
  | _ => false

/-- What all tags of the common set begin with. -/
def commonPart : String := "tag:yaml.org,2002:"

/-- The names of the tags of the common set. -/
def names : List (String × Tag) := [
  ("str", .text), ("null", .null), ("bool", .truth), ("int", .integer), ("float", .float),
  ("timestamp", .date), ("binary", .bytes), ("seq", .sequence), ("map", .mapping), ("set", .keys),
  ("omap", .orderedMapping), ("pairs", .pairs), ("merge", .merge), ("value", .default)]

/-- The kind that a tag says. -/
def ofText (s : String) : Tag :=
  ((names.find? fun entry => commonPart ++ entry.1 == s).map (·.2)).getD .unknown

end Tag
end Yaml
end SchemaTypes

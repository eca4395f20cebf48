import SchemaTypes.Yaml.Fault

/-!
# Tokens

What the text of a YAML stream is made of. The indentation of a block collection is not in the
text as a sign, so the tokens that open and close one stand for it.
-/

namespace SchemaTypes
namespace Yaml

/-- A directive, which stands in front of a document. -/
inductive Directive where
  | version (major minor : Nat)
  /-- A handle, and what it abbreviates. -/
  | tag (handle expansion : String)
  /-- Any other directive; it has no effect. -/
  | other
deriving Repr, DecidableEq

/-- A token. -/
inductive Token where
  | streamEnd
  | directive (directive : Directive)
  | documentStart
  | documentEnd
  | blockSequenceStart
  | blockMappingStart
  | blockEnd
  | flowSequenceStart
  | flowSequenceEnd
  | flowMappingStart
  | flowMappingEnd
  | blockEntry
  | flowEntry
  | key
  | value
  | alias (name : String)
  | anchor (name : String)
  /-- A tag: a handle, if it has one, and what follows it. -/
  | tag (handle : Option String) (suffix : String)
  /-- The code points of a scalar, and whether it is written without quotes on one or more plain
  lines. -/
  | scalar (points : List Nat) (isPlain : Bool)
deriving Repr, DecidableEq

/-- The tokens that a text begins with, and the fault with which it goes on unless they are all
there are. -/
structure Tokens where
  list : List Token
  fault : Option Fault

end Yaml
end SchemaTypes

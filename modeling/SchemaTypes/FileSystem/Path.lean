
/-!
# Paths

A path as it is written: the slashes it begins with and the names behind them. Empty names and
single dots say nothing and are left out, so `a//b/./c` and `a/b/c` are the same path; two dots
are kept, because what they mean depends on the directories there are. Exactly two slashes at the
beginning are kept apart from one, and three or more are the same as one.

The path without slashes and names is the current directory and is written as a dot.
-/

namespace SchemaTypes

/-- A path: how many slashes it begins with, at most two, and its names. -/
structure Path where
  slashes : Nat
  names : List String
deriving Repr, DecidableEq

namespace Path

/-- The names between the slashes of a text, the empty ones included. -/
def splitSlashes (s : String) : List String :=
  (s.toList.splitOn '/').map String.ofList

/-- The slashes at the beginning of a text, as a path counts them. -/
def leadingSlashes (s : String) : Nat :=
  let count := (s.toList.takeWhile (· == '/')).length
  if 2 < count then 1 else count

/-- The path that a text writes. -/
def ofText (s : String) : Path where
  slashes := leadingSlashes s
  names := (splitSlashes s).filter fun name => name ≠ "" ∧ name ≠ "."

/-- The text of a path. -/
def text (path : Path) : String :=
  if path.slashes = 0 ∧ path.names = [] then "."
  else String.ofList (List.replicate path.slashes '/') ++ "/".intercalate path.names

/-- Whether a path begins at the root and not at the current directory. -/
def isAbsolute (path : Path) : Bool :=
  path.slashes != 0

/-- The path without its last name. -/
def parent (path : Path) : Path :=
  { path with names := path.names.dropLast }

/-- Adds a name to names that have been followed so far: two dots take the last one away. -/
def follow (names : List String) (name : String) : List String :=
  if name = ".." then names.dropLast else names ++ [name]

/-- The absolute path without dots that a path means in a current directory with the given
names. -/
def resolve (current : List String) (path : Path) : Path where
  slashes := 1
  names := path.names.foldl follow (if path.isAbsolute then [] else current)

/-- Whether a path holds a null character, which no file system accepts. -/
def hasNull (path : Path) : Bool :=
  path.names.any fun name => name.toList.contains '\x00'

end Path
end SchemaTypes

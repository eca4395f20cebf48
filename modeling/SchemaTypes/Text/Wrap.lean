
/-!
# Lines of a given width

Two ways to break into lines what is too long for one. Both fill a line before they begin the
next one.

`pack` keeps pieces whole: a piece that is longer than a line gets a line of its own. `wrap` breaks
a text at its spaces, and inside a word only if the word is longer than a line; such a word begins
where there is room left.
-/

namespace SchemaTypes
namespace Text

/-! ## Whole pieces -/

/-- Packs pieces into lines with a space between pieces. The width of what stands on the line so
far is given, as one less if that is no piece; so is that for a line that begins. -/
def packFrom (width start : Int) : Int → List String → List String → List (List String)
  | _, line, [] => if line.isEmpty then [] else [line]
  | used, line, piece :: rest =>
    let length : Int := piece.length
    if width < used + 1 + length ∧ ¬ line.isEmpty then
      line :: packFrom width start (start + length) [piece] rest
    else packFrom width start (used + 1 + length) (line ++ [piece]) rest

/-- Packs pieces into lines of a width. The first line has something of a given length in front,
and every other line is indented. -/
def pack (width : Int) (front indent : Nat) (pieces : List String) : List String :=
  (packFrom width indent ((front : Int) - 1) [] pieces).map (" ".intercalate ·)

/-! ## Texts -/

/-- The longest beginning of some pieces for which there is room, the room that is left, and the
other pieces. -/
def fitting : Nat → List (List Char) → List (List Char) × Nat × List (List Char)
  | room, [] => ([], room, [])
  | room, piece :: rest =>
    if piece.length ≤ room then
      let (line, left, others) := fitting (room - piece.length) rest
      (piece :: line, left, others)
    else ([], room, piece :: rest)

/-- The first line of some pieces, and what is left of them. -/
def firstLine (width : Nat) (pieces : List (List Char)) : List (List Char) × List (List Char) :=
  match fitting width pieces with
  | (line, _, []) => (line, [])
  | (line, room, piece :: rest) =>
    if width < piece.length then (line ++ [piece.take room], piece.drop room :: rest)
    else (line, piece :: rest)

/-- Whether a piece consists of spaces, or of nothing. -/
def isSpace (piece : List Char) : Bool :=
  piece.all (· == ' ')

/-- Breaks pieces, every other of which is a space, into lines. A space at the beginning of a line
goes away, and so does a piece of spaces at its end. -/
def wrapPieces (width : Nat) : Nat → List (List Char) → List (List Char)
  | 0, _ => []
  | steps + 1, pieces =>
    let (line, rest) := firstLine width (if pieces.head?.any isSpace then pieces.tail else pieces)
    let line := if line.getLast?.any isSpace then line.dropLast else line
    let others := if rest.isEmpty then [] else wrapPieces width steps rest
    if line.isEmpty then others else line.flatten :: others

/-- Breaks a text into lines of a positive width. Every line takes a character. -/
def wrap (width : Nat) (text : String) : List String :=
  let pieces := (text.toList.splitOn ' ').intersperse [' ']
  (wrapPieces width (text.length + 1) pieces).map String.ofList

end Text
end SchemaTypes

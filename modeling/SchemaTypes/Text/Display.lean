import SchemaTypes.Text.Character
import SchemaTypes.Text.Printable

/-!
# Displayed text

Messages that quote what the user wrote show it in quotes, with everything that could not be read
off the screen spelled out. The quotes are single ones, unless the text holds a single quote and
no double quote. A backslash and the chosen quote take a backslash; tab, line feed and carriage
return have their letters; any other code point without a shape is written by its number, with as
few of two, four or eight hexadecimal digits as hold it. Surrogates have no shape, so every list
of code points can be displayed.
-/

namespace SchemaTypes
namespace Text

/-- The quote around displayed code points. -/
def displayQuote (ns : List Nat) : Char :=
  if ns.contains '\''.toNat && !ns.contains '"'.toNat then '"' else '\''

/-- One displayed code point. -/
def displayPoint (quote : Char) (n : Nat) : List Char :=
  if n == quote.toNat || n == '\\'.toNat then ['\\', charOfPoint n]
  else if n == '\t'.toNat then ['\\', 't']
  else if n == '\n'.toNat then ['\\', 'n']
  else if n == '\r'.toNat then ['\\', 'r']
  else if isPrintable n then [charOfPoint n]
  else if n < 0x100 then '\\' :: 'x' :: hexPadded 2 n
  else if n < 0x10000 then '\\' :: 'u' :: hexPadded 4 n
  else '\\' :: 'U' :: hexPadded 8 n

/-- Code points in quotes, with what cannot be seen spelled out. -/
def displayPoints (ns : List Nat) : String :=
  let quote := displayQuote ns
  String.ofList (quote :: ns.flatMap (displayPoint quote) ++ [quote])

/-- A text in quotes, with what cannot be seen spelled out. -/
def display (s : String) : String :=
  displayPoints (points s.toList)

/-- Bytes in quotes behind a letter, with all that is no visible ASCII spelled out. -/
def displayBytes (bytes : List UInt8) : String :=
  let ns := bytes.map UInt8.toNat
  let quote := displayQuote ns
  let body := ns.flatMap fun n =>
    if n < 0x7F then displayPoint quote n else '\\' :: 'x' :: hexPadded 2 n
  String.ofList ('b' :: quote :: body ++ [quote])

end Text
end SchemaTypes

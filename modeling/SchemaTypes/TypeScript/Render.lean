import SchemaTypes.Declaration
import SchemaTypes.Text.Character
import SchemaTypes.Text.Line

/-!
# The text of a declaration file

Each declaration is a list of rows, and rows are joined by line feeds. A file is its header, the
unions, the interfaces and the registry, with one empty row between any two of them and between
any two members of an interface, and it ends with a line feed. What is empty leaves no gap: a file
without unions goes from its header straight to its interfaces.

Names of unions and interfaces, and type expressions, are written as they are. Union members, the
registry's module and the keys of members are quoted where they need it. In a string literal
exactly the characters that would end it, or begin an escape inside it, are escaped: the backslash,
the single quote, and the four line terminators of the language. Every other character stands for
itself, so a literal never holds a raw line terminator.

The key of an interface member is written bare when the name is an ASCII identifier and as a string
literal otherwise. One line feed after an identifier does not make the name need quotes: the test
for an identifier looks at the name up to its last line end, and the bare key keeps that line feed.

The comment above an interface member is a block: an opening row, one row per line of text, a
closing row. Two steps keep the text inside the block. The sequence that would close a comment is
taken apart with a backslash before the text is cut into lines, and each row begins with its own
asterisk and a space and loses the blanks at its end. The text is the comment of the member, if it
has one that is not empty, and then its default, which opens with the tag `@default`. A member
without a default is documented with `null`.
-/

namespace SchemaTypes
namespace TypeScript

/-! ## String literals -/

/-- How one character of a text is written inside a literal. -/
def escape : Char → List Char
  | '\\' => ['\\', '\\']
  | '\'' => ['\\', '\'']
  | '\n' => ['\\', 'n']
  | '\r' => ['\\', 'r']
  | '\u2028' => ['\\', 'u', '2', '0', '2', '8']
  | '\u2029' => ['\\', 'u', '2', '0', '2', '9']
  | c => [c]

/-- The inside of the literal of a text. -/
def literalBody (cs : List Char) : List Char :=
  cs.flatMap escape

/-- The literal of a text. -/
def literal (s : String) : String :=
  String.ofList ('\'' :: literalBody s.toList ++ ['\''])

@[simp] theorem literalBody_nil : literalBody [] = [] := rfl

@[simp] theorem literalBody_cons (c : Char) (cs : List Char) :
    literalBody (c :: cs) = escape c ++ literalBody cs := rfl

@[simp] theorem literalBody_append (cs ds : List Char) :
    literalBody (cs ++ ds) = literalBody cs ++ literalBody ds := by
  simp [literalBody]

/-! ## Keys -/

/-- A character that may begin an identifier. -/
def isIdentifierStart (c : Char) : Bool :=
  c.isAlpha || c == '_' || c == '$'

/-- A character that may continue an identifier. -/
def isIdentifierPart (c : Char) : Bool :=
  c.isAlphanum || c == '_' || c == '$'

/-- An ASCII identifier: one start character and then parts. -/
def isIdentifier : List Char → Bool
  | [] => false
  | c :: cs => isIdentifierStart c && cs.all isIdentifierPart

/-- A name that is written without quotes: an identifier, or one with a line feed after it. -/
def isBareKey (cs : List Char) : Bool :=
  isIdentifier cs || (cs.getLast? == some '\n' && isIdentifier cs.dropLast)

/-- The key under which an interface lists a member. -/
def propertyKey (name : String) : String :=
  if isBareKey name.toList then name else literal name

/-! ## Documentation comments -/

/-- Takes every end of a comment apart: a slash right after an asterisk gets a backslash before
it. -/
def guardCommentEnd : List Char → List Char
  | '*' :: '/' :: cs => '*' :: '\\' :: '/' :: guardCommentEnd cs
  | c :: cs => c :: guardCommentEnd cs
  | [] => []

/-- The lines that a text adds to a comment; the empty text adds one empty line. -/
def docLines (text : String) : List (List Char) :=
  match Text.lines (guardCommentEnd text.toList) with
  | [] => [[]]
  | first :: rest => first :: rest

/-- The lines that document a default: the tag stands before the first one. -/
def defaultLines (value : Option String) : List (List Char) :=
  match docLines (value.getD "null") with
  | [] => []
  | first :: rest => ("@default ".toList ++ first) :: rest

/-- The lines that a description adds; an absent or empty one adds none. -/
def commentLines : Option String → List (List Char)
  | none => []
  | some text => if text.isEmpty then [] else docLines text

/-- A row of the block: indentation, asterisk, space and the line, without blanks at its end. -/
def docRow (line : List Char) : String :=
  String.ofList (Text.trimEnd Text.isBlank ("   * ".toList ++ line))

/-- The block above a member, row by row. -/
def docComment (comment defaultValue : Option String) : List String :=
  "  /**" :: (commentLines comment ++ defaultLines defaultValue).map docRow ++ ["   */"]

/-! ## Declarations -/

/-- The first line of every file. -/
def header : String := "// This file is auto-generated. Do not edit it manually."

/-- Joins rows by line feeds. -/
def joinRows (rows : List String) : String :=
  "\n".intercalate rows

/-- Joins blocks of text with one empty row between each two. -/
def joinBlocks (blocks : List String) : String :=
  "\n\n".intercalate blocks

/-- The members of a union, one a row: a bar after each but the last, and a semicolon after
that. -/
def memberRows : List String → List String
  | [] => []
  | [member] => ["  " ++ literal member ++ ";"]
  | member :: next :: rest => ("  " ++ literal member ++ " |") :: memberRows (next :: rest)

/-- A union declaration; without members nothing inhabits the type. -/
def renderUnion (union : UnionDeclaration) : String :=
  match union.members with
  | [] => "export type " ++ union.name ++ " = never;"
  | member :: rest =>
    joinRows (("export type " ++ union.name ++ " =") :: memberRows (member :: rest))

/-- A member of an interface under its documentation. -/
def renderProperty (property : Property) : String :=
  joinRows (docComment property.comment property.defaultValue
    ++ ["  " ++ propertyKey property.name ++ ": " ++ property.typeExpression ++ ";"])

/-- An interface declaration. -/
def renderInterface (interface : InterfaceDeclaration) : String :=
  match interface.properties with
  | [] => joinRows ["export interface " ++ interface.name ++ " \x7b", "\x7d"]
  | property :: rest =>
    joinRows ["export interface " ++ interface.name ++ " \x7b",
      joinBlocks ((property :: rest).map renderProperty), "\x7d"]

/-- One line of the registry. -/
def registryRow (entry : RegistryEntry) : String :=
  "    " ++ propertyKey entry.tableName ++ ": " ++ entry.interfaceName ++ ";"

/-- The module augmentation that registers every table. -/
def renderRegistry (registry : Registry) : String :=
  joinRows (["declare module " ++ literal registry.moduleName ++ " \x7b",
      "  interface " ++ registry.interfaceName ++ " \x7b"]
    ++ registry.entries.map registryRow ++ ["  \x7d", "\x7d"])

/-- A whole file. -/
def renderFile (file : DeclarationFile) : String :=
  joinBlocks (header :: file.unions.map renderUnion ++ file.interfaces.map renderInterface
    ++ [renderRegistry file.registry]) ++ "\n"

end TypeScript
end SchemaTypes

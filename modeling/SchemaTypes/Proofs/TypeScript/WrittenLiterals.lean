import SchemaTypes.Proofs.Text.Replace
import SchemaTypes.Proofs.TypeScript.FileTokens

/-!
# Literals end where they were closed

Labels of enums, names of columns and tables, and the name of the registry's module may hold any
character. They come into a file as string literals, and three questions decide whether this is
safe.

*How is a literal made?* `literal` looks at each character by itself. The same text comes about by
six replacements in the whole value, one after the other (`literalBody_eq_replaceInTurn`), and only
because the backslash is replaced first: each of the five that follow puts in backslashes of its
own, which must not be doubled.

*What does a reader make of it?* Whatever stands behind a literal, the reader stops at the quote
that the writer has put there, and the value is what was written.

*Where do literals stand?* The text of a file consists of pieces that are written bare and of
literals, and the values of these literals are, in their order, the labels, the names of columns that
are no keys by themselves, the module, and such names of tables (`quotes_renderFile`). At each of
them the second answer applies, so no value can end its literal early and go on as declarations.
-/

namespace SchemaTypes
namespace TypeScript

open Text (replaceInTurn)
open Text.SelfDelimiting (writeSeparated)

/-! ## Replacements in turn -/

/-- The characters that are escaped, in the order in which they are replaced. -/
def escapeTurns : List (Char × List Char) := [
  ('\\', ['\\', '\\']), ('\'', ['\\', '\'']), ('\n', ['\\', 'n']), ('\r', ['\\', 'r']),
  ('\u2028', ['\\', 'u', '2', '0', '2', '8']), ('\u2029', ['\\', 'u', '2', '0', '2', '9'])]

/-- A character is escaped as its replacement says, if it has one. -/
theorem escape_eq_lookup (c : Char) : escape c = (escapeTurns.lookup c).getD [c] := by
  unfold escape
  split
  -- the six escapes, and all other characters
  · rfl
  · rfl
  · rfl
  · rfl
  · rfl
  · rfl
  · rename_i hslash hquote hline hreturn hseparator hparagraph
    have hlookup : escapeTurns.lookup c = none := by
      simp only [List.lookup_eq_none_iff, escapeTurns, List.forall_mem_cons, bne_iff_ne]
      exact ⟨hslash, hquote, hline, hreturn, hseparator, hparagraph, nofun⟩
    rw [hlookup, Option.getD_none]

/-- **The inside of a literal is made by six replacements**, the backslash first. -/
theorem literalBody_eq_replaceInTurn (cs : List Char) :
    literalBody cs = replaceInTurn escapeTurns cs := by
  have hturns : escapeTurns.Pairwise fun earlier later => later.1 ∉ earlier.2 := by decide
  rw [Text.replaceInTurn_eq_flatMap hturns, literalBody]
  exact List.flatMap_congr fun c _ => escape_eq_lookup c

/-- The order matters: with the backslash last, the quote's own escape is escaped. -/
example : replaceInTurn [('\'', ['\\', '\'']), ('\\', ['\\', '\\'])] ['\''] ≠ literalBody ['\''] := by
  simp [replaceInTurn, Text.replaceAll_singleton, literalBody, escape]

/-! ## Literals in a text -/

/-- A text consists of pieces that are written bare, whatever they hold, and of the literals of some
values, in their order. -/
inductive Quotes : List Char → List String → Prop
  | nil : Quotes [] []
  | bare (piece : List Char) {text : List Char} {values : List String} :
    Quotes text values → Quotes (piece ++ text) values
  | literal (value : String) {text : List Char} {values : List String} :
    Quotes text values → Quotes ((TypeScript.literal value).toList ++ text) (value :: values)

namespace Quotes

variable {text more : List Char} {values moreValues : List String}

theorem append (h : Quotes text values) (hmore : Quotes more moreValues) :
    Quotes (text ++ more) (values ++ moreValues) := by
  induction h with
  | nil => exact hmore
  | bare piece _ ih =>
    rw [List.append_assoc]
    exact ih.bare piece
  | literal value _ ih =>
    rw [List.append_assoc, List.cons_append]
    exact ih.literal value

/-- A piece without literals. -/
theorem piece (text : List Char) : Quotes text [] := by
  simpa using nil.bare text

/-- A literal by itself. -/
theorem single (value : String) : Quotes (TypeScript.literal value).toList [value] := by
  simpa using nil.literal value

theorem flatMap {α : Type} {write : α → List Char} {quoted : α → List String}
    (h : ∀ a, Quotes (write a) (quoted a)) (as : List α) :
    Quotes (as.flatMap write) (as.flatMap quoted) := by
  induction as with
  | nil => exact nil
  | cons a as ih =>
    rw [List.flatMap_cons, List.flatMap_cons]
    exact (h a).append ih

/-- A list with separators between its pieces, none of which holds a literal. -/
theorem separated {α : Type} {write : α → List Char} {quoted : α → List String}
    (h : ∀ a, Quotes (write a) (quoted a)) (separator stop empty : List Char) (as : List α) :
    Quotes (writeSeparated write separator stop empty as) (as.flatMap quoted) := by
  cases as with
  | nil => exact piece empty
  | cons a as =>
    have hrest : Quotes (as.flatMap fun b => separator ++ write b) (as.flatMap quoted) :=
      flatMap (fun b => (h b).bare separator) as
    have hall := ((h a).append hrest).append (piece stop)
    rwa [List.append_nil] at hall

end Quotes

/-! ## Literals in a file -/

/-- The value of the literal that a key is written as, if it is written as one. -/
def quotedKey (name : String) : List String :=
  if isBareKey name.toList then [] else [name]

/-- The values of all literals in the text of a file, in their order. -/
def quotedValues (file : DeclarationFile) : List String :=
  file.unions.flatMap (·.members)
    ++ (file.interfaces.flatMap (fun interface =>
        interface.properties.flatMap fun property => quotedKey property.name)
      ++ file.registry.moduleName
        :: file.registry.entries.flatMap fun entry => quotedKey entry.tableName)

theorem quotes_propertyKey (name : String) :
    Quotes (propertyKey name).toList (quotedKey name) := by
  by_cases h : isBareKey name.toList = true
  · rw [quotedKey, if_pos h]
    exact .piece _
  · rw [quotedKey, if_neg h, propertyKey_of_not_isBareKey h]
    exact .single name

theorem quotes_renderUnion (union : UnionDeclaration) :
    Quotes (renderUnion union).toList union.members := by
  have hmember : ∀ member, Quotes (memberText member) [member] := fun member =>
    (Quotes.single member).bare "\n  ".toList
  have hmembers := Quotes.separated hmember " |".toList ";".toList " never;".toList union.members
  rw [List.flatMap_singleton'] at hmembers
  rw [toList_renderUnion]
  exact (hmembers.bare _).bare _

theorem quotes_renderProperty (property : Property) :
    Quotes (renderProperty property).toList (quotedKey property.name) := by
  have hkey := (quotes_propertyKey property.name).append (Quotes.piece [':'])
  have hall := ((hkey.bare "  ".toList).append (.piece " ".toList)).append
    (.piece (property.typeExpression.toList ++ [';']))
  rw [toList_renderProperty, List.append_assoc]
  simpa using hall.bare (docText property.comment property.defaultValue)

theorem quotes_renderInterface (interface : InterfaceDeclaration) :
    Quotes (renderInterface interface).toList
      (interface.properties.flatMap fun property => quotedKey property.name) := by
  rw [toList_renderInterface]
  exact ((Quotes.separated quotes_renderProperty _ _ _ interface.properties).bare _).bare _

theorem quotes_renderRegistry (registry : Registry) :
    Quotes (renderRegistry registry).toList
      (registry.moduleName :: registry.entries.flatMap fun entry => quotedKey entry.tableName) := by
  have hentry : ∀ entry : RegistryEntry,
      Quotes ('\n' :: (registryRow entry).toList) (quotedKey entry.tableName) := by
    intro entry
    have hrow := (quotes_propertyKey entry.tableName).append
      (.piece (':' :: ' ' :: (entry.interfaceName.toList ++ [';'])))
    rw [toList_registryRow]
    simpa using hrow.bare ['\n', ' ', ' ', ' ', ' ']
  have hentries := (Quotes.flatMap hentry registry.entries).append
    (.piece ['\n', ' ', ' ', '\x7d', '\n', '\x7d'])
  have hblock := (hentries.bare ("interface".toList ++ ' ' :: (registry.interfaceName.toList
    ++ [' ', '\x7b']))).bare [' ', '\x7b', '\n', ' ', ' ']
  have hall := (hblock.literal registry.moduleName).bare "declare module ".toList
  rw [toList_renderRegistry]
  simpa using hall

/-- The text of a file quotes the labels, the names that need it, and the module. -/
theorem quotes_renderFile (file : DeclarationFile) :
    Quotes (renderFile file).toList (quotedValues file) := by
  have hunions : Quotes (file.unions.flatMap fun union => blockText (renderUnion union)) _ :=
    .flatMap (fun union => (quotes_renderUnion union).bare "\n\n".toList) file.unions
  have hinterfaces : Quotes
      (file.interfaces.flatMap fun interface => blockText (renderInterface interface)) _ :=
    .flatMap (fun interface => (quotes_renderInterface interface).bare "\n\n".toList)
      file.interfaces
  have hregistry := ((quotes_renderRegistry file.registry).bare "\n\n".toList).append
    (.piece "\n".toList)
  rw [List.append_nil] at hregistry
  rw [toList_renderFile]
  exact (hunions.append (hinterfaces.append hregistry)).bare header.toList

/-- **A literal ends where it was closed, and nowhere else.** It is the value, escaped by six
replacements in turn, between two quotes. Whatever stands behind it, a reader that knows the escapes
of the language, and refuses raw line terminators, reads the value and leaves the rest. So different
values have different literals; and all that a file quotes stands in it as such literals. -/
theorem literals_end_where_closed (value : String) (rest : List Char) (file : DeclarationFile) :
    (literal value).toList = '\'' :: (replaceInTurn escapeTurns value.toList ++ ['\'']) ∧
      readLiteral ((literal value).toList ++ rest) = some (value.toList, rest) ∧
      Function.Injective literal ∧
      Quotes (renderFile file).toList (quotedValues file) := by
  refine ⟨?_, readLiteral_literal_append value rest, ?_, quotes_renderFile file⟩
  · rw [toList_literal, literalBody_eq_replaceInTurn, List.cons_append]
  · intro a b h
    have htext : (literal a).toList ++ [] = (literal b).toList ++ [] := by rw [h]
    exact (selfDelimiting_literal trivial trivial htext).1

end TypeScript
end SchemaTypes

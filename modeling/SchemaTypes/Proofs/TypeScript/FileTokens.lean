import SchemaTypes.Proofs.Declaration.TypeForm
import SchemaTypes.Proofs.TypeScript.Declarations
import SchemaTypes.Proofs.TypeScript.Reads

/-!
# The tokens of a declaration file

What is read in the text of a file, from the schema alone (`schemaTokens`): for each enum its name
and its labels, for each table its name and the names and types of its columns, then the registry.
Comments, defaults and the layout have no tokens. A column's name is a word where it is written
bare and a literal elsewhere, and what is read is the same name again; only a line feed behind a
bare name is lost among the white space.

This is so for all schemas whose enums and tables have identifiers for names
(`tokens_renderFile`). Labels, columns, types, comments and defaults may be anything.
-/

namespace SchemaTypes
namespace TypeScript

open Text.SelfDelimiting (writeSeparated)

variable {alphabet : Alphabet}

/-! ## What there is to read -/

/-- The words that a declaration begins with. -/
def headTokens (kind name : String) : List Token :=
  [.word "export", .word kind, .word name]

/-- Tokens of the items of a list, and others between them and at the end. -/
def separatedTokens {α : Type} (item : α → List Token) (separator stop empty : List Token) :
    List α → List Token
  | [] => empty
  | a :: as => item a ++ as.flatMap (fun b => separator ++ item b) ++ stop

/-- The tokens of the union of an enum. -/
def enumTokens (enum : EnumType) : List Token :=
  headTokens "type" enum.name ++ .mark '='
    :: separatedTokens (fun label => [.literal label]) [.mark '|'] [.mark ';']
      [.word "never", .mark ';'] enum.labels

/-- A bare name without the line feed that may stand behind it. -/
def bareName (name : String) : String :=
  if isIdentifier name.toList then name else String.ofList name.toList.dropLast

/-- The token of a key. -/
def keyToken (name : String) : Token :=
  if isBareKey name.toList then .word (bareName name) else .literal name

/-- The tokens of a type expression. -/
def typeTokens (form : TypeForm) : List Token :=
  .word form.element :: ((if form.isArray then [.mark '[', .mark ']'] else [])
    ++ if form.isNullable then [.mark '|', .word "null"] else [])

/-- A key with what it is bound to. -/
def bindingTokens (key : String) (bound : List Token) : List Token :=
  keyToken key :: .mark ':' :: (bound ++ [.mark ';'])

/-- The tokens of the interface of a table. -/
def tableTokens (enumNames : List String) (table : Table) : List Token :=
  headTokens "interface" table.name ++ .mark '\x7b'
    :: (table.columns.flatMap fun column =>
      bindingTokens column.name (typeTokens (column.typeForm enumNames))) ++ [.mark '\x7d']

/-- The tokens of the registry of some tables. -/
def registryTokens (tables : List Table) : List Token :=
  [.word "declare", .word "module", .literal Registry.tablesModule, .mark '\x7b',
    .word "interface", .word Registry.tablesInterface, .mark '\x7b']
    ++ (tables.flatMap fun table => bindingTokens table.name [.word table.name])
    ++ [.mark '\x7d', .mark '\x7d']

/-- The tokens of the file of a schema. -/
def schemaTokens (schema : DatabaseSchema) : List Token :=
  schema.enums.flatMap enumTokens ++ schema.tables.flatMap (tableTokens schema.enumNames)
    ++ registryTokens schema.tables

/-! ## Pieces of declarations -/

theorem Reads.separated {α : Type} {write : α → List Char} {item : α → List Token}
    {separator stop empty : List Char} {separatorRead stopRead emptyRead : List Token}
    {as : List α} (h : ∀ a ∈ as, Reads alphabet (write a) (item a))
    (hseparator : Reads alphabet separator separatorRead) (hstop : Reads alphabet stop stopRead)
    (hempty : Reads alphabet empty emptyRead) :
    Reads alphabet (writeSeparated write separator stop empty as)
      (separatedTokens item separatorRead stopRead emptyRead as) := by
  cases as with
  | nil => exact hempty
  | cons a as =>
    rw [List.forall_mem_cons] at h
    exact (h.1.append (flatMap fun b hb => hseparator.append (h.2 b hb))).append hstop

/-- The words of a head. -/
theorem reads_head {kind name : String} (hkind : isIdentifier kind.toList = true)
    (hname : alphabet.isIdentifier name.toList = true) :
    Reads alphabet ("export".toList ++ ' ' :: (kind.toList ++ ' ' :: (name.toList ++ [' '])))
      (headTokens kind name) :=
  .word_space (alphabet.isIdentifier_of_ascii (by decide))
    (.word_space (alphabet.isIdentifier_of_ascii hkind) (.word_space hname .nil))

theorem reads_member (member : String) :
    Reads alphabet (memberText member) [.literal member] := by
  have hliteral : Reads alphabet (literal member).toList [.literal member] := .literal member
  exact hliteral.spaces (s := ['\n', ' ', ' ']) (by decide)

theorem reads_renderUnion {enum : EnumType} (h : alphabet.isIdentifier enum.name.toList = true) :
    Reads alphabet (renderUnion enum.declaration).toList (enumTokens enum) := by
  have hhead : Reads alphabet _ (headTokens "type" enum.name) := reads_head (by decide) h
  have hequals : Reads alphabet ['='] [.mark '='] := Reads.nil.mark (by decide)
  have hbar : Reads alphabet [' ', '|'] [.mark '|'] :=
    (Reads.nil.mark (by decide)).space (by decide)
  have hstop : Reads alphabet [';'] [.mark ';'] := Reads.nil.mark (by decide)
  have hnever : Reads alphabet (' ' :: ("never".toList ++ [';'])) [.word "never", .mark ';'] :=
    (Reads.nil.word_mark (alphabet.isIdentifier_of_ascii (by decide)) (by decide)).space
      (by decide)
  have hmembers : Reads alphabet
      (writeSeparated memberText [' ', '|'] [';'] (' ' :: ("never".toList ++ [';'])) enum.labels)
      (separatedTokens (fun label => [.literal label]) [.mark '|'] [.mark ';']
        [.word "never", .mark ';'] enum.labels) :=
    .separated (fun label _ => reads_member label) hbar hstop hnever
  have hall := hhead.append (hequals.append hmembers)
  rw [toList_renderUnion]
  simpa [enumTokens, EnumType.declaration] using hall

/-- A bare key is read as its name. A line feed behind the name is white space. -/
theorem reads_bareKey {name : String} (h : isBareKey name.toList = true) :
    Reads alphabet (name.toList ++ [':']) [.word (bareName name), .mark ':'] := by
  have hcolon : Reads alphabet [':'] [.mark ':'] := Reads.nil.mark (by decide)
  obtain ⟨front, hfront, hname | hname⟩ := isBareKey_iff.mp h
  · rw [bareName, if_pos (hname ▸ hfront)]
    exact .word_mark (alphabet.isIdentifier_of_ascii (hname ▸ hfront)) (by decide) .nil
  · have hline : '\n' ∈ name.toList := by simp [hname]
    have hnot : ¬ isIdentifier name.toList = true := fun hidentifier =>
      notMem_of_isIdentifier hidentifier (by decide) hline
    have hidentifier : alphabet.isIdentifier (String.ofList front).toList = true :=
      alphabet.isIdentifier_of_ascii (by rwa [String.toList_ofList])
    have hword := (hcolon.space (c := '\n') (by decide)).word hidentifier
      (alphabet.isPart_of_isSpace (by decide))
    rw [bareName, if_neg hnot, hname, List.dropLast_concat]
    simpa using hword

/-- A key and its colon. -/
theorem reads_propertyKey (name : String) :
    Reads alphabet ((propertyKey name).toList ++ [':']) [keyToken name, .mark ':'] := by
  by_cases hbare : isBareKey name.toList = true
  · rw [propertyKey_of_isBareKey hbare, keyToken, if_pos hbare]
    exact reads_bareKey hbare
  · have hcolon : Reads alphabet [':'] [.mark ':'] := Reads.nil.mark (by decide)
    rw [propertyKey_of_not_isBareKey hbare, keyToken, if_neg hbare]
    exact (Reads.literal name).append hcolon

/-- A type expression and its semicolon. -/
theorem reads_typeForm {form : TypeForm} (h : alphabet.isIdentifier form.element.toList = true) :
    Reads alphabet (form.text.toList ++ [';']) (typeTokens form ++ [.mark ';']) := by
  have hstop : Reads alphabet [';'] [.mark ';'] := Reads.nil.mark (by decide)
  have hnull : Reads alphabet (' ' :: '|' :: ' ' :: ("null".toList ++ [';']))
      [.mark '|', .word "null", .mark ';'] :=
    (((Reads.nil.word_mark (alphabet.isIdentifier_of_ascii (by decide)) (by decide)).space
      (by decide)).mark (by decide)).space (by decide)
  obtain ⟨element, isArray, isNullable⟩ := form
  dsimp only at h
  cases isArray <;> cases isNullable
  · simpa [TypeForm.text, TypeMap.applyNullability, typeTokens] using
      Reads.word_mark h (c := ';') (by decide) .nil
  · simpa [TypeForm.text, TypeMap.applyNullability, typeTokens] using
      Reads.word h (alphabet.isPart_of_isSpace (by decide)) hnull
  · simpa [TypeForm.text, TypeMap.applyNullability, typeTokens] using
      Reads.word_mark h (c := '[') (by decide) (hstop.mark (c := ']') (by decide))
  · simpa [TypeForm.text, TypeMap.applyNullability, typeTokens] using
      Reads.word_mark h (c := '[') (by decide) (hnull.mark (c := ']') (by decide))

/-! ## Interfaces and registry -/

/-- A key with what it is bound to is read if what stands behind the colon is. -/
theorem reads_binding {key : String} {bound : List Char} {read : List Token}
    (h : Reads alphabet (bound ++ [';']) (read ++ [.mark ';'])) :
    Reads alphabet ((propertyKey key).toList ++ [':'] ++ ' ' :: (bound ++ [';']))
      (bindingTokens key read) :=
  (reads_propertyKey key).append (h.space (by decide))

theorem reads_renderProperty {column : Column} {enumNames : List String}
    (h : alphabet.isIdentifier (column.typeForm enumNames).element.toList = true) :
    Reads alphabet (renderProperty (column.property enumNames)).toList
      (bindingTokens column.name (typeTokens (column.typeForm enumNames))) := by
  have htype := reads_typeForm h
  rw [← Column.typeExpression_eq_text] at htype
  have hbinding : Reads alphabet _ (bindingTokens column.name _) := reads_binding htype
  have hindented := hbinding.spaces (s := [' ', ' ']) (by decide)
  have hall := (Reads.docText column.comment column.defaultValue).append hindented
  rw [toList_renderProperty]
  simpa [Column.property] using hall

theorem separatedTokens_eq_flatMap {α : Type} (item : α → List Token) (stop : List Token)
    (as : List α) : separatedTokens item [] stop stop as = as.flatMap item ++ stop := by
  cases as <;> rfl

theorem writeSeparated_map {α β : Type} (write : β → List Char) (f : α → β)
    (separator stop empty : List Char) (as : List α) :
    writeSeparated write separator stop empty (as.map f) =
      writeSeparated (fun a => write (f a)) separator stop empty as := by
  cases as with
  | nil => rfl
  | cons a as => simp [writeSeparated, List.flatMap_map]

theorem reads_renderInterface {table : Table} {enumNames : List String}
    (hname : alphabet.isIdentifier table.name.toList = true)
    (hcolumns : ∀ column ∈ table.columns,
      alphabet.isIdentifier (column.typeForm enumNames).element.toList = true) :
    Reads alphabet (renderInterface (table.declaration enumNames)).toList
      (tableTokens enumNames table) := by
  have hhead : Reads alphabet _ (headTokens "interface" table.name) := reads_head (by decide) hname
  have hopening : Reads alphabet ['\x7b', '\n'] [.mark '\x7b'] :=
    (Reads.nil.space (by decide)).mark (by decide)
  have hempty : Reads alphabet ['\n', '\n'] [] :=
    Reads.nil.spaces (s := ['\n', '\n']) (by decide)
  have hclosing : Reads alphabet ['\x7d'] [.mark '\x7d'] := Reads.nil.mark (by decide)
  have hproperties : ∀ column ∈ table.columns, Reads alphabet
      (renderProperty (column.property enumNames)).toList
      (bindingTokens column.name (typeTokens (column.typeForm enumNames))) :=
    fun column hcolumn => reads_renderProperty (hcolumns column hcolumn)
  have hmembers := Reads.separated hproperties hempty
    (hclosing.space (c := '\n') (by decide)) hclosing
  have hall := hhead.append (hopening.append hmembers)
  rw [toList_renderInterface]
  rw [separatedTokens_eq_flatMap] at hall
  simpa [tableTokens, Table.declaration, writeSeparated_map] using hall

theorem toList_registryRow (entry : RegistryEntry) :
    (registryRow entry).toList = ' ' :: ' ' :: ' ' :: ' ' ::
      ((propertyKey entry.tableName).toList ++ [':']
        ++ ' ' :: (entry.interfaceName.toList ++ [';'])) := by
  simp [registryRow]

theorem toList_renderRegistry (registry : Registry) :
    (renderRegistry registry).toList = "declare".toList ++ ' ' :: ("module".toList ++ ' ' ::
      ((literal registry.moduleName).toList ++ ([' ', '\x7b', '\n', ' ', ' '] ++
        ("interface".toList ++ ' ' :: (registry.interfaceName.toList ++ ' ' :: '\x7b' ::
          (registry.entries.flatMap (fun entry => '\n' :: (registryRow entry).toList)
            ++ ['\n', ' ', ' ', '\x7d', '\n', '\x7d'])))))) := by
  rw [renderRegistry, joinRows, List.cons_append, List.cons_append, toList_intercalate_cons]
  simp [List.flatMap_map]

theorem reads_renderRegistry {tables : List Table}
    (h : ∀ table ∈ tables, alphabet.isIdentifier table.name.toList = true) :
    Reads alphabet (renderRegistry (.ofEntries (tables.map (·.registryEntry)))).toList
      (registryTokens tables) := by
  have hentry : ∀ table ∈ tables, Reads alphabet ('\n' :: (registryRow table.registryEntry).toList)
      (bindingTokens table.name [.word table.name]) := by
    intro table htable
    have hname : Reads alphabet (table.name.toList ++ [';']) [.word table.name, .mark ';'] :=
      Reads.nil.word_mark (h table htable) (by decide)
    have hrow : Reads alphabet _ (bindingTokens table.name [.word table.name]) :=
      reads_binding hname
    rw [toList_registryRow]
    exact hrow.spaces (s := ['\n', ' ', ' ', ' ', ' ']) (by decide)
  have hlast : Reads alphabet ['\n', '\x7d'] [.mark '\x7d'] :=
    (Reads.nil.mark (by decide)).space (by decide)
  have hclosing : Reads alphabet ['\n', ' ', ' ', '\x7d', '\n', '\x7d']
      [.mark '\x7d', .mark '\x7d'] :=
    (hlast.mark (by decide)).spaces (s := ['\n', ' ', ' ']) (by decide)
  have hline : Reads alphabet ['\n', ' ', ' '] [] :=
    Reads.nil.spaces (s := ['\n', ' ', ' ']) (by decide)
  have hopening : Reads alphabet [' ', '\x7b', '\n', ' ', ' '] [.mark '\x7b'] :=
    (hline.mark (by decide)).space (by decide)
  have hdeclare : alphabet.isIdentifier "declare".toList = true :=
    alphabet.isIdentifier_of_ascii (by decide)
  have hmodule : alphabet.isIdentifier "module".toList = true :=
    alphabet.isIdentifier_of_ascii (by decide)
  have hinterface : alphabet.isIdentifier "interface".toList = true :=
    alphabet.isIdentifier_of_ascii (by decide)
  have hregistry : alphabet.isIdentifier Registry.tablesInterface.toList = true :=
    alphabet.isIdentifier_of_ascii (by decide)
  have hentries := ((Reads.flatMap hentry).append hclosing).mark (c := '\x7b') (by decide)
  have hblock := Reads.word_space hinterface (.word_space hregistry hentries)
  have hall := Reads.word_space hdeclare
    (.word_space hmodule ((Reads.literal Registry.tablesModule).append (hopening.append hblock)))
  rw [toList_renderRegistry]
  simpa [Registry.ofEntries, registryTokens, List.flatMap_map, Table.registryEntry] using hall

/-! ## Files -/

theorem reads_blockText {block : String} {read : List Token}
    (h : Reads alphabet block.toList read) : Reads alphabet (blockText block) read :=
  h.spaces (s := ['\n', '\n']) (by decide)

/-- The form of a column refers to an identifier if the enums have identifiers for names. -/
theorem isIdentifier_element {enumNames : List String}
    (h : ∀ name ∈ enumNames, alphabet.isIdentifier name.toList = true) (column : Column) :
    alphabet.isIdentifier (column.typeForm enumNames).element.toList = true := by
  by_cases hmem : column.nativeType ∈ enumNames
  · rw [Column.element_of_mem hmem]
    exact h _ hmem
  · rw [Column.element_of_notMem hmem]
    apply alphabet.isIdentifier_of_ascii
    cases (TypeMap.entryOf column.nativeType).1 <;> decide

/-- The header is a line, whatever stands behind it. -/
theorem exists_line_behind_header (file : DeclarationFile) :
    ∃ rest, (renderFile file).toList = header.toList ++ '\n' :: rest := by
  obtain ⟨unions, interfaces, registry⟩ := file
  rw [toList_renderFile]
  cases unions with
  | cons => exact ⟨_, rfl⟩
  | nil =>
    cases interfaces with
    | cons => exact ⟨_, rfl⟩
    | nil => exact ⟨_, rfl⟩

/-- **What is read in the text of a file** is what the schema says, if its enums and tables have
identifiers for names. -/
theorem tokens_renderFile {schema : DatabaseSchema}
    (henums : ∀ name ∈ schema.enumNames, alphabet.isIdentifier name.toList = true)
    (htables : ∀ name ∈ schema.tableNames, alphabet.isIdentifier name.toList = true) :
    tokens alphabet (renderFile schema.declarationFile).toList = schemaTokens schema := by
  have hunions : Reads alphabet
      (schema.enums.flatMap fun enum => blockText (renderUnion enum.declaration))
      (schema.enums.flatMap enumTokens) :=
    .flatMap fun enum henum => reads_blockText (reads_renderUnion
      (henums _ (List.mem_map_of_mem henum)))
  have hinterfaces : Reads alphabet
      (schema.tables.flatMap fun table =>
        blockText (renderInterface (table.declaration schema.enumNames)))
      (schema.tables.flatMap (tableTokens schema.enumNames)) :=
    .flatMap fun table htable => reads_blockText (reads_renderInterface
      (htables _ (List.mem_map_of_mem htable)) fun column _ => isIdentifier_element henums column)
  have hregistry : Reads alphabet
      (blockText (renderRegistry (.ofEntries (schema.tables.map (·.registryEntry)))))
      (registryTokens schema.tables) :=
    reads_blockText (reads_renderRegistry fun table htable =>
      htables _ (List.mem_map_of_mem htable))
  have hend : Reads alphabet ['\n'] [] := Reads.nil.space (by decide)
  have hall := hunions.append (hinterfaces.append (hregistry.append hend))
  obtain ⟨rest, hrest⟩ := exists_line_behind_header schema.declarationFile
  have htext := toList_renderFile schema.declarationFile
  rw [hrest, List.append_cancel_left_eq] at htext
  have hheader : header.toList = '/' :: '/' :: header.toList.drop 2 := by decide
  have hcomment : ∀ c ∈ header.toList.drop 2, isLineTerminator c = false :=
    List.forall_iff_forall_mem.mp (by decide)
  rw [hrest, hheader, tokens_lineComment hcomment (by simp [isLineTerminator]), htext]
  simpa [DatabaseSchema.declarationFile, List.flatMap_map, schemaTokens] using hall.tokens_eq

end TypeScript
end SchemaTypes

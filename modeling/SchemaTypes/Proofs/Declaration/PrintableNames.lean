import SchemaTypes.Generation
import SchemaTypes.Proofs.Declaration.Content
import SchemaTypes.Proofs.TypeScript.FileTokens

/-!
# Names that can be printed

A name of a type is written as it is, in four places of a file: behind `export type`, behind
`export interface`, in the type of a member and in an entry of the registry. The language wants an
identifier there that is not reserved. The check for collisions does not look for this, and the
database lets enums and tables have any name. So a file is only as good as the names are, and this
module says exactly how good that is:

* what the file writes bare are names just if the names of all enums and tables are;
* its text has one head per enum and per table, in their order and with their names, just if the
  names of all enums and tables are;
* and then the text is read as what the schema says, token for token, so no name can break a
  declaration or bring one about.

These three are `printable_iff`. Accepted schemas need not be printable: one enum can have a name
with which its text is that of two (`renderFile_forging`).
-/

namespace SchemaTypes
namespace TypeScript

variable {alphabet : Alphabet}

/-! ## Names -/

/-- The words that name nothing. A file with exports is a module, and so the words that are reserved
in strict code and in modules are among them. -/
def reservedWords : List String :=
  ["await", "break", "case", "catch", "class", "const", "continue", "debugger", "default", "delete",
    "do", "else", "enum", "export", "extends", "false", "finally", "for", "function", "if",
    "implements", "import", "in", "instanceof", "interface", "let", "new", "null", "package",
    "private", "protected", "public", "return", "static", "super", "switch", "this", "throw",
    "true", "try", "typeof", "var", "void", "while", "with", "yield"]

/-- A name that may be written bare. -/
structure Alphabet.IsName (alphabet : Alphabet) (name : String) : Prop where
  isIdentifier : alphabet.isIdentifier name.toList = true
  notReserved : name ∉ reservedWords

/-- The names of types that a file writes bare. -/
inductive WrittenBare (file : DeclarationFile) : String → Prop
  | union {union : UnionDeclaration} : union ∈ file.unions → WrittenBare file union.name
  | interface {interface : InterfaceDeclaration} :
    interface ∈ file.interfaces → WrittenBare file interface.name
  /-- The name of a union in the type of a member. -/
  | reference {interface : InterfaceDeclaration} {property : Property} {union : UnionDeclaration}
    {isNullable : Bool} :
    interface ∈ file.interfaces → property ∈ interface.properties → union ∈ file.unions →
      property.typeExpression = TypeMap.applyNullability union.name isNullable →
        WrittenBare file union.name
  | entry {entry : RegistryEntry} :
    entry ∈ file.registry.entries → WrittenBare file entry.interfaceName

/-- Every enum and every table of a schema has a name that may be written bare. -/
def Printable (alphabet : Alphabet) (schema : DatabaseSchema) : Prop :=
  ∀ name ∈ schema.enumNames ++ schema.tableNames, alphabet.IsName name

instance (name : String) : Decidable (alphabet.IsName name) :=
  decidable_of_iff (alphabet.isIdentifier name.toList = true ∧ name ∉ reservedWords)
    ⟨fun h => ⟨h.1, h.2⟩, fun h => ⟨h.1, h.2⟩⟩

instance (schema : DatabaseSchema) : Decidable (Printable alphabet schema) :=
  inferInstanceAs (Decidable (∀ name ∈ schema.enumNames ++ schema.tableNames, alphabet.IsName name))

/-- The names that a file writes bare are those of the enums and of the tables. -/
theorem writtenBare_declarationFile_iff {schema : DatabaseSchema} {name : String} :
    WrittenBare schema.declarationFile name ↔ name ∈ schema.enumNames ++ schema.tableNames := by
  rw [List.mem_append, ← schema.map_name_unions, ← schema.map_name_interfaces]
  constructor
  · rintro (hunion | hinterface | ⟨-, -, hunion, -⟩ | hentry)
    · exact Or.inl (List.mem_map_of_mem hunion)
    · exact Or.inr (List.mem_map_of_mem hinterface)
    · exact Or.inl (List.mem_map_of_mem hunion)
    · obtain ⟨table, htable, rfl⟩ := List.mem_map.mp hentry
      rw [schema.map_name_interfaces]
      exact Or.inr (List.mem_map_of_mem htable)
  · rintro (hname | hname)
    · obtain ⟨union, hunion, rfl⟩ := List.mem_map.mp hname
      exact .union hunion
    · obtain ⟨interface, hinterface, rfl⟩ := List.mem_map.mp hname
      exact .interface hinterface

/-! ## Heads of declarations -/

/-- What a declaration is announced as. -/
inductive Head where
  | type (name : String)
  | interface (name : String)
deriving Repr, DecidableEq

def Head.name : Head → String
  | .type name => name
  | .interface name => name

/-- The head that a kind and a name make. -/
def headOf? (kind name : String) : Option Head :=
  if name ∈ reservedWords then none
  else if kind = "type" then some (.type name)
  else if kind = "interface" then some (.interface name)
  else none

/-- The head that some tokens begin with. -/
def headAt? : List Token → Option Head
  | .word first :: .word kind :: .word name :: _ =>
    if first = "export" then headOf? kind name else none
  | _ => none

/-- All heads among some tokens, wherever they stand. -/
def heads : List Token → List Head
  | [] => []
  | token :: rest => (headAt? (token :: rest)).toList ++ heads rest

/-- The heads that the file of a schema should have. -/
def schemaHeads (schema : DatabaseSchema) : List Head :=
  schema.enums.map (fun enum => .type enum.name)
    ++ schema.tables.map fun table => .interface table.name

theorem word_mem_of_headAt? {read : List Token} {head : Head} (h : headAt? read = some head) :
    Token.word head.name ∈ read ∧ head.name ∉ reservedWords := by
  revert h
  fun_cases headAt? read with
  | case1 kind name rest =>
    unfold headOf?
    split
    · simp
    · rename_i hreserved
      split
      · rintro ⟨⟩
        exact ⟨by simp [Head.name], hreserved⟩
      · split
        · rintro ⟨⟩
          exact ⟨by simp [Head.name], hreserved⟩
        · simp
  | case2 => simp
  | case3 => simp

/-- A head has a name that stands among the tokens and is not reserved. -/
theorem word_mem_of_mem_heads {read : List Token} {head : Head} (h : head ∈ heads read) :
    Token.word head.name ∈ read ∧ head.name ∉ reservedWords := by
  induction read with
  | nil => cases h
  | cons token rest ih =>
    rcases List.mem_append.mp h with h | h
    · exact word_mem_of_headAt? (Option.mem_toList.mp h)
    · exact ⟨List.mem_cons_of_mem _ (ih h).1, (ih h).2⟩

/-- **Heads have names**, whatever the text is that they are read in. -/
theorem isName_of_mem_heads {text : List Char} {head : Head}
    (h : head ∈ heads (tokens alphabet text)) : alphabet.IsName head.name :=
  ⟨isIdentifier_of_mem_tokens (word_mem_of_mem_heads h).1, (word_mem_of_mem_heads h).2⟩

/-! ## Heads of what is read -/

/-- Some tokens have these heads, whatever stands behind them. -/
def HaveHeads (read : List Token) (found : List Head) : Prop :=
  ∀ rest, heads (read ++ rest) = found ++ heads rest

namespace HaveHeads

variable {read more : List Token} {found foundMore : List Head}

theorem nil : HaveHeads [] [] :=
  fun _ => rfl

theorem append (h : HaveHeads read found) (hmore : HaveHeads more foundMore) :
    HaveHeads (read ++ more) (found ++ foundMore) := by
  intro rest
  rw [List.append_assoc, h, hmore, List.append_assoc]

theorem mark (c : Char) (h : HaveHeads read found) : HaveHeads (.mark c :: read) found :=
  fun rest => h rest

theorem literal (value : String) (h : HaveHeads read found) :
    HaveHeads (.literal value :: read) found :=
  fun rest => h rest

/-- A word in front of a mark is no beginning of a head. -/
theorem word_mark (name : String) (c : Char) (h : HaveHeads read found) :
    HaveHeads (.word name :: .mark c :: read) found :=
  fun rest => h rest

theorem flatMap {α : Type} {item : α → List Token} {itemHeads : α → List Head} {as : List α}
    (h : ∀ a ∈ as, HaveHeads (item a) (itemHeads a)) :
    HaveHeads (as.flatMap item) (as.flatMap itemHeads) :=
  flatMap_append_eq h

/-- Items without heads have none together. -/
theorem flatMap_nil {α : Type} {item : α → List Token} {as : List α}
    (h : ∀ a ∈ as, HaveHeads (item a) []) : HaveHeads (as.flatMap item) [] := by
  have hall := flatMap h
  rwa [List.flatMap_eq_nil_iff.mpr fun _ _ => rfl] at hall

theorem head {kind name : String} {head : Head} (hhead : headOf? kind name = some head) (c : Char)
    (h : HaveHeads read found) :
    HaveHeads (headTokens kind name ++ .mark c :: read) (head :: found) := by
  intro rest
  have hrest : heads (read ++ rest) = found ++ heads rest := h rest
  simp [headTokens, heads, headAt?, hhead, hrest]

theorem binding (key : String) {bound : List Token} (h : HaveHeads (bound ++ [.mark ';']) []) :
    HaveHeads (bindingTokens key bound) [] := by
  rw [bindingTokens, keyToken]
  split
  · exact h.word_mark _ _
  · exact (h.mark ':').literal _

theorem typeForm (form : TypeForm) : HaveHeads (typeTokens form ++ [.mark ';']) [] := by
  obtain ⟨element, isArray, isNullable⟩ := form
  cases isArray <;> cases isNullable <;> exact fun _ => rfl

end HaveHeads

theorem haveHeads_enumTokens {enum : EnumType} (h : enum.name ∉ reservedWords) :
    HaveHeads (enumTokens enum) [.type enum.name] := by
  have hhead : headOf? "type" enum.name = some (.type enum.name) := by
    rw [headOf?, if_neg h, if_pos rfl]
  refine HaveHeads.head hhead '=' ?_
  cases enum.labels with
  | nil => exact fun _ => rfl
  | cons label labels =>
    have hlabels : HaveHeads (labels.flatMap fun label => [.mark '|', .literal label]) [] :=
      .flatMap_nil fun label _ => (HaveHeads.nil.literal label).mark '|'
    exact (hlabels.literal label).append (HaveHeads.nil.mark ';')

theorem haveHeads_tableTokens {table : Table} (h : table.name ∉ reservedWords)
    (enumNames : List String) :
    HaveHeads (tableTokens enumNames table) [.interface table.name] := by
  have hhead : headOf? "interface" table.name = some (.interface table.name) := by
    rw [headOf?, if_neg h, if_neg (by decide), if_pos rfl]
  have hcolumns : HaveHeads (table.columns.flatMap fun column =>
      bindingTokens column.name (typeTokens (column.typeForm enumNames))) [] :=
    .flatMap_nil fun column _ => .binding _ (.typeForm _)
  have hall := HaveHeads.head hhead '\x7b' (hcolumns.append (HaveHeads.nil.mark '\x7d'))
  simpa [tableTokens] using hall

theorem haveHeads_registryTokens (tables : List Table) : HaveHeads (registryTokens tables) [] := by
  have hentries : HaveHeads (tables.flatMap fun table =>
      bindingTokens table.name [.word table.name]) [] :=
    .flatMap_nil fun table _ => .binding _ (HaveHeads.nil.word_mark _ _)
  have hclosing : HaveHeads [.mark '\x7d', .mark '\x7d'] [] := (HaveHeads.nil.mark _).mark _
  have hopening : HaveHeads [.word "declare", .word "module", .literal Registry.tablesModule,
      .mark '\x7b', .word "interface", .word Registry.tablesInterface, .mark '\x7b'] [] :=
    fun _ => rfl
  exact (hopening.append hentries).append hclosing

/-- The tokens of a schema have the heads of its enums and tables and no others, as long as no name
is reserved. -/
theorem heads_schemaTokens {schema : DatabaseSchema}
    (h : ∀ name ∈ schema.enumNames ++ schema.tableNames, name ∉ reservedWords) :
    heads (schemaTokens schema) = schemaHeads schema := by
  rw [List.forall_mem_append] at h
  have henums : HaveHeads (schema.enums.flatMap enumTokens)
      (schema.enums.flatMap fun enum => [.type enum.name]) :=
    .flatMap fun enum henum => haveHeads_enumTokens (h.1 _ (List.mem_map_of_mem henum))
  have htables : HaveHeads (schema.tables.flatMap (tableTokens schema.enumNames))
      (schema.tables.flatMap fun table => [.interface table.name]) :=
    .flatMap fun table htable => haveHeads_tableTokens (h.2 _ (List.mem_map_of_mem htable)) _
  have hall := ((henums.append htables).append (haveHeads_registryTokens schema.tables)) []
  simpa [schemaTokens, schemaHeads, heads, List.map_eq_flatMap] using hall

/-! ## Printable schemas -/

section Printable

variable {schema : DatabaseSchema}

theorem tokens_of_printable (h : Printable alphabet schema) :
    tokens alphabet (renderFile schema.declarationFile).toList = schemaTokens schema :=
  tokens_renderFile (fun name hname => (h name (List.mem_append_left _ hname)).isIdentifier)
    fun name hname => (h name (List.mem_append_right _ hname)).isIdentifier

/-- The heads of a file are those of its schema just if its names can be printed. -/
theorem heads_eq_iff :
    heads (tokens alphabet (renderFile schema.declarationFile).toList) = schemaHeads schema ↔
      Printable alphabet schema := by
  constructor
  · intro h name hname
    have hhead : ∃ head ∈ schemaHeads schema, head.name = name := by
      rcases List.mem_append.mp hname with hname | hname
      · obtain ⟨enum, henum, hname⟩ := List.mem_map.mp hname
        exact ⟨.type enum.name, List.mem_append_left _ (List.mem_map_of_mem henum), hname⟩
      · obtain ⟨table, htable, hname⟩ := List.mem_map.mp hname
        exact ⟨.interface table.name, List.mem_append_right _ (List.mem_map_of_mem htable), hname⟩
    obtain ⟨head, hmem, rfl⟩ := hhead
    exact isName_of_mem_heads (h ▸ hmem)
  · intro h
    rw [tokens_of_printable h]
    exact heads_schemaTokens fun name hname => (h name hname).notReserved

/-- **How a file reads is decided by the names of the enums and tables.** What is written bare are
names just if the schema is printable; the text has exactly the heads of the enums and tables just
if it is; and then the text reads as what the schema says. -/
theorem printable_iff {file : DeclarationFile} (h : schema.build.outcome = .ok file)
    (alphabet : Alphabet) :
    schema.generate = .ok (renderFile file) ∧
      ((∀ name, WrittenBare file name → alphabet.IsName name) ↔ Printable alphabet schema) ∧
      (heads (tokens alphabet (renderFile file).toList) = schemaHeads schema ↔
        Printable alphabet schema) ∧
      (Printable alphabet schema →
        tokens alphabet (renderFile file).toList = schemaTokens schema) := by
  have hgenerate : schema.generate = .ok (renderFile file) := by
    rw [DatabaseSchema.generate, h]
    rfl
  obtain ⟨-, rfl⟩ := DatabaseSchema.outcome_build_eq_ok_iff.mp h
  simp only [writtenBare_declarationFile_iff]
  exact ⟨hgenerate, Iff.rfl, heads_eq_iff, tokens_of_printable⟩

end Printable

/-- A person has a mood, or none. -/
def persons : DatabaseSchema where
  schemaName := "public"
  tables := [⟨"person", "public", [⟨"current mood", "mood", true, none, none⟩]⟩]
  enums := [⟨"mood", "public", ["sad", "ok"]⟩]

theorem heads_persons :
    persons.build.outcome = .ok persons.declarationFile ∧ Printable .ascii persons ∧
      heads (tokens .ascii (renderFile persons.declarationFile).toList)
        = [.type "mood", .interface "person"] := by
  have hapart : persons.NamesApart :=
    ⟨by decide, by decide, by simp [persons, DatabaseSchema.enumNames, DatabaseSchema.tableNames],
      by simp [persons, Table.ColumnsApart]⟩
  have hbuild : persons.build.outcome = .ok persons.declarationFile :=
    DatabaseSchema.outcome_build_eq_ok_iff.mpr ⟨hapart, rfl⟩
  have hprintable : Printable .ascii persons := by decide
  obtain ⟨-, -, hheads, -⟩ := printable_iff hbuild .ascii
  exact ⟨hbuild, hprintable, hheads.mpr hprintable⟩

/-! ## Forged declarations -/

section Forged

variable (first second : String) (labels : List String)

/-- Two enums, the first one without labels. -/
def twoEnums : DatabaseSchema where
  schemaName := "public"
  tables := []
  enums := [⟨first, "public", []⟩, ⟨second, "public", labels⟩]

/-- A name that ends the declaration in which it stands and begins another one. The database allows
it. -/
def forgedName : String :=
  first ++ " = never;\n\nexport type " ++ second

/-- One enum with such a name. -/
def forging : DatabaseSchema where
  schemaName := "public"
  tables := []
  enums := [⟨forgedName first second, "public", labels⟩]

/-- The text for one enum with a forged name is that for two enums, character for character. -/
theorem renderFile_forging :
    renderFile (forging first second labels).declarationFile =
      renderFile (twoEnums first second labels).declarationFile := by
  rw [← String.toList_inj, toList_renderFile, toList_renderFile]
  simp [DatabaseSchema.declarationFile, forging, twoEnums, forgedName, EnumType.declaration,
    blockText, toList_renderUnion, Text.SelfDelimiting.writeSeparated]

theorem outcome_build_forging :
    (forging first second labels).build.outcome
      = .ok (forging first second labels).declarationFile := by
  have hapart : (forging first second labels).NamesApart :=
    ⟨List.nodup_singleton _, List.nodup_nil, List.disjoint_nil_right _, nofun⟩
  exact DatabaseSchema.outcome_build_eq_ok_iff.mpr ⟨hapart, rfl⟩

end Forged

/-- **A schema that is accepted can bring about declarations of its own.** It has one enum, and the
text has the heads of two types, of which neither is the enum. -/
theorem forging_accepted_not_printable :
    (forging "mood" "role" ["open"]).build.outcome
        = .ok (forging "mood" "role" ["open"]).declarationFile ∧
      WrittenBare (forging "mood" "role" ["open"]).declarationFile (forgedName "mood" "role") ∧
      ¬ Alphabet.ascii.IsName (forgedName "mood" "role") ∧
      heads (tokens .ascii (renderFile (forging "mood" "role" ["open"]).declarationFile).toList)
        = [.type "mood", .type "role"] := by
  refine ⟨outcome_build_forging _ _ _, ?_, by decide, ?_⟩
  · exact writtenBare_declarationFile_iff.mpr (by decide)
  · rw [renderFile_forging]
    have hprintable : Printable .ascii (twoEnums "mood" "role" ["open"]) := by decide
    exact heads_eq_iff.mpr hprintable

end TypeScript
end SchemaTypes

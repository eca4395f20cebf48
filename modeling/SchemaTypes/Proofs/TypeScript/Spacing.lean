import SchemaTypes.Proofs.TypeScript.Documentation
import SchemaTypes.Proofs.TypeScript.FileTokens
import SchemaTypes.Proofs.TypeScript.MemberNames
import SchemaTypes.Proofs.TypeScript.Paragraphs

/-!
# Empty rows

A text is spaced (`Spaced`) if line feeds stand only between other characters, at most so many of
them in a row, and if no other line terminator is in it. With one line feed in a row this is a
paragraph, a text of rows none of which is empty; with two there may be single empty rows. Spaced
texts may be put behind one another with line feeds in between, no more than are allowed in a row
(`Spaced.append`), so rows make paragraphs and paragraphs make texts with single empty rows.

What is written in a file comes from labels, names, comments and defaults, and a line terminator in
one of them is escaped, cut out or makes a new row. There is one exception: a bare key may have a
line feed at its end. Behind the key stands a colon, so this line feed leaves no row empty, and
every paragraph of a file is one (`spaced_of_mem_paragraphs`).
-/

namespace SchemaTypes
namespace TypeScript

/-! ## Texts of spaced rows -/

/-- A row: it is not empty and no line ends in it. -/
structure IsRow (text : List Char) : Prop where
  nonempty : text ≠ []
  oneLine : ∀ c ∈ text, isLineTerminator c = false

/-- A text that begins and ends with something else than a line feed, has at most the given number
of line feeds in a row, and no other line terminators. -/
structure Spaced (limit : Nat) (text : List Char) : Prop where
  begins : ∃ first rest, text = first :: rest ∧ first ≠ '\n'
  ends : ∃ front last, text = front ++ [last] ∧ last ≠ '\n'
  apart : ¬ List.replicate (limit + 1) '\n' <:+: text
  onlyLineFeeds : ∀ c ∈ text, isLineTerminator c = true → c = '\n'

theorem isRow_iff {text : List Char} :
    IsRow text ↔ (!text.isEmpty && text.all fun c => !isLineTerminator c) = true := by
  simp only [Bool.and_eq_true, Bool.not_eq_true', List.isEmpty_eq_false_iff, List.all_eq_true]
  exact ⟨fun h => ⟨h.nonempty, h.oneLine⟩, fun h => ⟨h.1, h.2⟩⟩

instance (text : List Char) : Decidable (IsRow text) :=
  decidable_of_iff _ isRow_iff.symm

section Texts

variable {limit k : Nat} {text behind : List Char}

/-- What does not hold a character is found on one side of it, if it is found at all. -/
theorem infix_of_infix_append_cons {α : Type} {pattern front back : List α} {c : α}
    (hc : c ∉ pattern) (h : pattern <:+: front ++ c :: back) :
    pattern <:+: front ∨ pattern <:+: back := by
  have hempty : ∀ part, part <+: c :: back → c ∉ part → part = [] := by
    rintro part ⟨rest, hpart⟩ hnot
    cases part with
    | nil => rfl
    | cons d part => exact absurd ((List.cons.inj hpart).1 ▸ List.mem_cons_self) hnot
  rcases List.infix_append_iff.mp h with hfront | hback | ⟨part, part', rfl, hfront, hback⟩
  · exact Or.inl hfront
  · rcases List.infix_cons_iff.mp hback with hbegin | hback
    · rw [hempty pattern hbegin hc]
      exact Or.inl (List.nil_infix)
    · exact Or.inr hback
  · rw [List.mem_append, not_or] at hc
    rw [hempty part' hback hc.2, List.append_nil]
    exact Or.inl hfront.isInfix

theorem notMem_lineFeeds {c : Char} (h : c ≠ '\n') (n : Nat) : c ∉ List.replicate n '\n' :=
  fun hmem => h (List.eq_of_mem_replicate hmem)

theorem IsRow.append (h : IsRow text) (h' : IsRow behind) : IsRow (text ++ behind) where
  nonempty := List.append_ne_nil_of_left_ne_nil h.nonempty _
  oneLine := List.forall_mem_append.mpr ⟨h.oneLine, h'.oneLine⟩

theorem isRow_between {before middle after : String} (hbefore : IsRow before.toList)
    (h : IsRow middle.toList) (hafter : IsRow after.toList) :
    IsRow (before ++ middle ++ after).toList := by
  rw [String.toList_append, String.toList_append]
  exact (hbefore.append h).append hafter

/-- A row is spaced however many line feeds are allowed. -/
theorem IsRow.spaced (h : IsRow text) : Spaced limit text where
  begins := by
    obtain ⟨first, rest, rfl⟩ := List.exists_cons_of_ne_nil h.nonempty
    refine ⟨first, rest, rfl, ?_⟩
    rintro rfl
    exact absurd (h.oneLine _ List.mem_cons_self) (by decide)
  ends := by
    refine ⟨_, _, (List.dropLast_concat_getLast h.nonempty).symm, fun hlast => ?_⟩
    exact absurd (h.oneLine _ (hlast ▸ List.getLast_mem h.nonempty)) (by decide)
  apart := by
    intro hfound
    have hmem : '\n' ∈ text := hfound.subset (by simp)
    exact absurd (h.oneLine _ hmem) (by decide)
  onlyLineFeeds := by
    intro c hc hterminator
    rw [h.oneLine c hc] at hterminator
    cases hterminator

/-- **Line feeds between spaced texts**, no more than are allowed in a row. -/
theorem Spaced.append (h : Spaced limit text) (h' : Spaced limit behind) (hk : k ≤ limit) :
    Spaced limit (text ++ (List.replicate k '\n' ++ behind)) where
  begins := by
    obtain ⟨first, rest, rfl, hfirst⟩ := h.begins
    exact ⟨first, _, List.cons_append, hfirst⟩
  ends := by
    obtain ⟨front, last, rfl, hlast⟩ := h'.ends
    exact ⟨text ++ (List.replicate k '\n' ++ front), last, by simp only [List.append_assoc], hlast⟩
  apart := by
    intro hfound
    -- The last character of one text and the first one of the other part the line feeds.
    obtain ⟨front, last, rfl, hlast⟩ := h.ends
    obtain ⟨first, rest, rfl, hfirst⟩ := h'.begins
    rw [List.append_assoc] at hfound
    rcases infix_of_infix_append_cons (notMem_lineFeeds hlast _) hfound with hfound | hfound
    · exact h.apart (hfound.trans (List.prefix_append front [last]).isInfix)
    · rcases infix_of_infix_append_cons (notMem_lineFeeds hfirst _) hfound with hfound | hfound
      · have hlength := hfound.length_le
        rw [List.length_replicate, List.length_replicate] at hlength
        omega
      · exact h'.apart (hfound.trans (List.suffix_cons first rest).isInfix)
  onlyLineFeeds := by
    refine List.forall_mem_append.mpr ⟨h.onlyLineFeeds, List.forall_mem_append.mpr
      ⟨fun c hc _ => List.eq_of_mem_replicate hc, h'.onlyLineFeeds⟩⟩

/-- A text with fewer line feeds in a row has not too many of them. -/
theorem Spaced.mono {other : Nat} (h : Spaced limit text) (hle : limit ≤ other) :
    Spaced other text where
  begins := h.begins
  ends := h.ends
  apart := by
    intro hfound
    have hshorter : List.replicate (limit + 1) '\n' <+: List.replicate (other + 1) '\n' :=
      ⟨List.replicate (other - limit) '\n', by rw [← List.replicate_add]; congr 1; omega⟩
    exact h.apart (hshorter.isInfix.trans hfound)
  onlyLineFeeds := h.onlyLineFeeds

/-- Spaced texts with line feeds between each two. -/
theorem Spaced.intercalate {separator : String} {parts : List String}
    (hseparator : separator.toList = List.replicate k '\n') (hk : k ≤ limit) (hne : parts ≠ [])
    (h : ∀ part ∈ parts, Spaced limit part.toList) :
    Spaced limit (separator.intercalate parts).toList := by
  induction parts with
  | nil => exact absurd rfl hne
  | cons part rest ih =>
    obtain ⟨hpart, hrest⟩ := List.forall_mem_cons.mp h
    cases rest with
    | nil => rwa [String.intercalate_singleton]
    | cons next rest =>
      rw [String.intercalate_cons_cons, String.toList_append, String.toList_append, hseparator,
        List.append_assoc]
      exact hpart.append (ih (List.cons_ne_nil _ _) hrest) hk

/-- Paragraphs one below the other make one paragraph. -/
theorem spaced_joinRows {rows : List String} (hne : rows ≠ [])
    (h : ∀ row ∈ rows, Spaced 1 row.toList) : Spaced 1 (joinRows rows).toList :=
  .intercalate (k := 1) (by simp) (Nat.le_refl 1) hne h

/-- Paragraphs make a text with single empty rows. -/
theorem spaced_joinBlocks {paragraphs : List String} (hne : paragraphs ≠ [])
    (h : ∀ paragraph ∈ paragraphs, Spaced 1 paragraph.toList) :
    Spaced 2 (joinBlocks paragraphs).toList :=
  .intercalate (k := 2) (by simp) (Nat.le_refl 2) hne
    fun paragraph hparagraph => (h paragraph hparagraph).mono (by decide)

end Texts

/-! ## Rows of a file -/

section Rows

variable {before behind : List Char} {enumNames : List String}

theorem isRow_of_isIdentifier {cs : List Char} (h : isIdentifier cs = true) : IsRow cs where
  nonempty := by
    rintro rfl
    cases h
  oneLine _ hc := isLineTerminator_of_isIdentifierPart (isIdentifierPart_of_mem h hc)

theorem isRow_literal (value : String) : IsRow (literal value).toList where
  nonempty := by
    rw [toList_literal]
    exact List.cons_ne_nil _ _
  oneLine _ := isLineTerminator_of_mem_literal

theorem isLineTerminator_of_isLineEnd {c : Char} (h : Text.isLineEnd c = false) :
    isLineTerminator c = false := by
  rw [Bool.eq_false_iff]
  intro hterminator
  simp only [isLineTerminator, Bool.or_eq_true, beq_iff_eq] at hterminator
  rcases hterminator with ((rfl | rfl) | rfl) | rfl
  · exact absurd h (by decide)
  · exact absurd h (by decide)
  · exact absurd h (by decide)
  · exact absurd h (by decide)

/-- A row of documentation is never empty, since it has its asterisk. -/
theorem isRow_docRow {line : List Char} (h : IsOneLine line) : IsRow (docRow line).toList where
  nonempty := by
    obtain ⟨rest, hrow⟩ := isPrefix_docRow line
    rw [← hrow]
    exact List.append_ne_nil_of_left_ne_nil (by simp) _
  oneLine c hc := isLineTerminator_of_isLineEnd (isOneLine_docRow h c hc)

theorem isRow_docComment {comment defaultValue : Option String} :
    ∀ row ∈ docComment comment defaultValue, IsRow row.toList := by
  intro row hrow
  simp only [docComment, List.cons_append, List.mem_cons, List.mem_append, List.mem_map,
    List.not_mem_nil, or_false] at hrow
  rcases hrow with rfl | ⟨line, hline, rfl⟩ | rfl
  · decide
  · exact isRow_docRow (isOneLine_of_mem_documented (List.mem_append.mpr hline))
  · decide

/-- A line feed at the end of a bare key makes two rows of one. -/
theorem spaced_key (hbefore : IsRow before) (hbehind : IsRow behind) (name : String) :
    Spaced 1 (before ++ ((propertyKey name).toList ++ behind)) := by
  by_cases hends : EndsInLineFeed name
  · have hbare : isBareKey name.toList = true := isBareKey_iff_or.mpr (Or.inr hends)
    rw [propertyKey_of_isBareKey hbare]
    obtain ⟨identifier, hidentifier, rfl⟩ := hends
    have hrows := (hbefore.append (isRow_of_isIdentifier hidentifier)).spaced.append
      hbehind.spaced (k := 1) (Nat.le_refl 1)
    simpa using hrows
  · have hkey : IsRow (propertyKey name).toList := by
      refine ⟨?_, propertyKey_on_one_line_iff.mpr hends⟩
      by_cases hbare : isBareKey name.toList = true
      · rw [propertyKey_of_isBareKey hbare]
        exact (isRow_of_isIdentifier ((isBareKey_iff_or.mp hbare).resolve_right hends)).nonempty
      · rw [propertyKey_of_not_isBareKey hbare]
        exact (isRow_literal name).nonempty
    exact (hbefore.append (hkey.append hbehind)).spaced

theorem isIdentifier_ascii (cs : List Char) :
    Alphabet.ascii.isIdentifier cs = isIdentifier cs := by
  cases cs with
  | nil => rfl
  | cons c cs => rfl

theorem isRow_typeForm {form : TypeForm} (h : IsRow form.element.toList) :
    IsRow form.text.toList := by
  obtain ⟨element, isArray, isNullable⟩ := form
  have hbase : IsRow (if isArray then element ++ "[]" else element).toList := by
    cases isArray with
    | false => exact h
    | true =>
      rw [if_pos rfl, String.toList_append]
      exact h.append (by decide)
  rw [TypeForm.text]
  cases isNullable with
  | false => exact hbase
  | true =>
    rw [TypeMap.applyNullability, if_pos rfl, String.toList_append]
    exact hbase.append (by decide)

/-- A type expression is a row if the enums have identifiers for names. -/
theorem isRow_typeExpression (h : ∀ name ∈ enumNames, isIdentifier name.toList = true)
    (column : Column) : IsRow (column.typeExpression enumNames).toList := by
  have helement :=
    isIdentifier_element (fun name hname => Alphabet.ascii.isIdentifier_of_ascii (h name hname))
      column
  rw [isIdentifier_ascii] at helement
  rw [Column.typeExpression_eq_text]
  exact isRow_typeForm (isRow_of_isIdentifier helement)

end Rows

/-! ## Paragraphs of a file -/

section Paragraphs

variable {row : String} {blocks : List String}

theorem isRow_memberRows {members : List String} :
    ∀ row ∈ memberRows members, IsRow row.toList := by
  have hmember (member stop : String) (hstop : IsRow stop.toList) :
      IsRow ("  " ++ literal member ++ stop).toList :=
    isRow_between (by decide) (isRow_literal member) hstop
  fun_induction memberRows members with
  | case1 => exact List.forall_mem_nil _
  | case2 member => exact List.forall_mem_singleton.mpr (hmember _ _ (by decide))
  | case3 member next rest ih =>
    exact List.forall_mem_cons.mpr ⟨hmember _ _ (by decide), ih⟩

theorem spaced_renderUnion {union : UnionDeclaration} (h : isIdentifier union.name.toList = true) :
    Spaced 1 (renderUnion union).toList := by
  have hhead (stop : String) (hstop : IsRow stop.toList) :
      IsRow ("export type " ++ union.name ++ stop).toList :=
    isRow_between (by decide) (isRow_of_isIdentifier h) hstop
  rw [renderUnion]
  split
  · exact (hhead _ (by decide)).spaced
  · exact spaced_joinRows (List.cons_ne_nil _ _) (List.forall_mem_cons.mpr
      ⟨(hhead _ (by decide)).spaced, fun row hrow => (isRow_memberRows row hrow).spaced⟩)

/-- A key and what it is bound to, on a row of its own but for a line feed in the key. -/
theorem spaced_binding {indent bound : String} (hindent : IsRow indent.toList)
    (hbound : IsRow bound.toList) (name : String) :
    Spaced 1 (indent ++ propertyKey name ++ ": " ++ bound ++ ";").toList := by
  have hbehind : IsRow (": ".toList ++ (bound.toList ++ ";".toList)) :=
    IsRow.append (by decide) (hbound.append (by decide))
  have hkey := spaced_key hindent hbehind name
  simpa only [String.toList_append, List.append_assoc] using hkey

theorem spaced_renderProperty {property : Property} (h : IsRow property.typeExpression.toList) :
    Spaced 1 (renderProperty property).toList := by
  refine spaced_joinRows (by simp) (List.forall_mem_append.mpr ⟨fun row hrow => ?_, ?_⟩)
  · exact (isRow_docComment row hrow).spaced
  · exact List.forall_mem_singleton.mpr (spaced_binding (by decide) h property.name)

theorem spaced_pair {block other : String} (h : Spaced 1 block.toList)
    (h' : Spaced 1 other.toList) : Spaced 1 (joinRows [block, other]).toList :=
  spaced_joinRows (List.cons_ne_nil _ _)
    (List.forall_mem_cons.mpr ⟨h, List.forall_mem_singleton.mpr h'⟩)

theorem spaced_openFirst (hrow : IsRow row.toList) (h : ∀ block ∈ blocks, Spaced 1 block.toList) :
    ∀ paragraph ∈ openFirst row blocks, Spaced 1 paragraph.toList := by
  cases blocks with
  | nil => exact List.forall_mem_singleton.mpr hrow.spaced
  | cons block rest =>
    obtain ⟨hblock, hrest⟩ := List.forall_mem_cons.mp h
    exact List.forall_mem_cons.mpr ⟨spaced_pair hrow.spaced hblock, hrest⟩

theorem spaced_closeLast (hrow : IsRow row.toList) (h : ∀ block ∈ blocks, Spaced 1 block.toList) :
    ∀ paragraph ∈ closeLast row blocks, Spaced 1 paragraph.toList := by
  fun_induction closeLast row blocks with
  | case1 => exact List.forall_mem_singleton.mpr hrow.spaced
  | case2 block =>
    exact List.forall_mem_singleton.mpr (spaced_pair (h block List.mem_cons_self) hrow.spaced)
  | case3 block next rest ih =>
    obtain ⟨hblock, hrest⟩ := List.forall_mem_cons.mp h
    exact List.forall_mem_cons.mpr ⟨hblock, ih hrest⟩

theorem spaced_interfaceParagraphs {interface : InterfaceDeclaration}
    (hname : isIdentifier interface.name.toList = true)
    (htypes : ∀ property ∈ interface.properties, IsRow property.typeExpression.toList) :
    ∀ paragraph ∈ interfaceParagraphs interface, Spaced 1 paragraph.toList := by
  have hopening : IsRow ("export interface " ++ interface.name ++ " \x7b").toList :=
    isRow_between (by decide) (isRow_of_isIdentifier hname) (by decide)
  refine spaced_openFirst hopening (spaced_closeLast (by decide) ?_)
  exact List.forall_mem_map.mpr fun property hproperty =>
    spaced_renderProperty (htypes property hproperty)

theorem spaced_renderRegistry {registry : Registry} (hname : IsRow registry.interfaceName.toList)
    (hentries : ∀ entry ∈ registry.entries, IsRow entry.interfaceName.toList) :
    Spaced 1 (renderRegistry registry).toList := by
  have hmodule : IsRow ("declare module " ++ literal registry.moduleName ++ " \x7b").toList :=
    isRow_between (by decide) (isRow_literal _) (by decide)
  have hinterface : IsRow ("  interface " ++ registry.interfaceName ++ " \x7b").toList :=
    isRow_between (by decide) hname (by decide)
  have hclosing : ∀ row ∈ ["  \x7d", "\x7d"], IsRow row.toList := by decide
  refine spaced_joinRows (by simp) (List.forall_mem_append.mpr ⟨List.forall_mem_append.mpr
    ⟨?_, List.forall_mem_map.mpr fun entry hentry => ?_⟩, fun row hrow => ?_⟩)
  · exact List.forall_mem_cons.mpr ⟨hmodule.spaced, List.forall_mem_singleton.mpr hinterface.spaced⟩
  · exact spaced_binding (by decide) (hentries entry hentry) entry.tableName
  · exact (hclosing row hrow).spaced

/-- **Every paragraph of a file is one**, if the enums and tables have identifiers for names. -/
theorem spaced_of_mem_paragraphs {schema : DatabaseSchema}
    (henums : ∀ name ∈ schema.enumNames, isIdentifier name.toList = true)
    (htables : ∀ name ∈ schema.tableNames, isIdentifier name.toList = true) :
    ∀ paragraph ∈ paragraphs schema.declarationFile, Spaced 1 paragraph.toList := by
  have hheader : IsRow header.toList := by decide
  have hunions : ∀ enum ∈ schema.enums, Spaced 1 (renderUnion enum.declaration).toList :=
    fun enum henum => spaced_renderUnion (henums _ (List.mem_map_of_mem henum))
  have hinterfaces : ∀ table ∈ schema.tables,
      ∀ paragraph ∈ interfaceParagraphs (table.declaration schema.enumNames),
        Spaced 1 paragraph.toList := fun table htable =>
    spaced_interfaceParagraphs (htables _ (List.mem_map_of_mem htable))
      (List.forall_mem_map.mpr fun column _ => isRow_typeExpression henums column)
  have htablesInterface : IsRow Registry.tablesInterface.toList := by decide
  have hregistry : Spaced 1 (renderRegistry schema.declarationFile.registry).toList :=
    spaced_renderRegistry htablesInterface (List.forall_mem_map.mpr fun table htable =>
      isRow_of_isIdentifier (htables _ (List.mem_map_of_mem htable)))
  intro paragraph hparagraph
  simp only [paragraphs, blockParagraphs, DatabaseSchema.declarationFile, List.mem_flatten,
    List.mem_append, List.mem_cons, List.mem_map, List.not_mem_nil, or_false] at hparagraph
  obtain ⟨group, hgroup, hmem⟩ := hparagraph
  rcases hgroup with ((rfl | ⟨_, ⟨enum, henum, rfl⟩, rfl⟩) | ⟨_, ⟨table, htable, rfl⟩, rfl⟩) | rfl
  · rw [List.mem_singleton.mp hmem]
    exact hheader.spaced
  · rw [List.mem_singleton.mp hmem]
    exact hunions enum henum
  · exact hinterfaces table htable paragraph hmem
  · rw [List.mem_singleton.mp hmem]
    exact hregistry

end Paragraphs
end TypeScript
end SchemaTypes

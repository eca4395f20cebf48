import SchemaTypes.TypeScript.Render

/-!
# Blocks and paragraphs of a file

A file is made of blocks, one for each declaration, with an empty row between any two of them
(`blocks`). The block of an interface has empty rows of its own, between its members. Taken apart
there as well, a file is made of paragraphs (`paragraphs`). The first member of an interface then
has the opening row of the interface above it, and the last one the closing row below it. No
paragraph is left out, and nothing but an empty row stands between two of them
(`renderFile_eq_paragraphs`).
-/

namespace SchemaTypes
namespace TypeScript

/-! ## Blocks -/

/-- The blocks of a file, from the header to the registry. -/
def blocks (file : DeclarationFile) : List String :=
  header :: file.unions.map renderUnion ++ file.interfaces.map renderInterface
    ++ [renderRegistry file.registry]

theorem renderFile_eq_blocks (file : DeclarationFile) :
    renderFile file = joinBlocks (blocks file) ++ "\n" :=
  rfl

/-- One interface is one block, behind the header and the unions. -/
theorem blocks_set (file : DeclarationFile) {i : Nat} (interface : InterfaceDeclaration)
    (h : i < file.interfaces.length) :
    blocks { file with interfaces := file.interfaces.set i interface }
      = (blocks file).set (file.unions.length + 1 + i) (renderInterface interface) := by
  have hfront : (header :: file.unions.map renderUnion).length = file.unions.length + 1 := by
    rw [List.length_cons, List.length_map]
  have hinside : file.unions.length + 1 + i
      < (header :: file.unions.map renderUnion ++ file.interfaces.map renderInterface).length := by
    rw [List.length_append, hfront, List.length_map]
    omega
  rw [blocks, blocks, List.set_append, if_pos hinside, List.set_append, hfront,
    if_neg (by omega), Nat.add_sub_cancel_left, List.map_set]

/-! ## Paragraphs -/

/-- Blocks with a row above the first one. -/
def openFirst (row : String) : List String → List String
  | [] => [row]
  | block :: rest => joinRows [row, block] :: rest

/-- Blocks with a row below the last one. -/
def closeLast (row : String) : List String → List String
  | [] => [row]
  | [block] => [joinRows [block, row]]
  | block :: next :: rest => block :: closeLast row (next :: rest)

/-- The paragraphs of an interface: its members, the first one below the opening row and the last
one above the closing row. Without members the two rows are one paragraph. -/
def interfaceParagraphs (interface : InterfaceDeclaration) : List String :=
  openFirst ("export interface " ++ interface.name ++ " \x7b")
    (closeLast "\x7d" (interface.properties.map renderProperty))

/-- The paragraphs of each block of a file. -/
def blockParagraphs (file : DeclarationFile) : List (List String) :=
  [header] :: file.unions.map (fun union => [renderUnion union])
    ++ file.interfaces.map interfaceParagraphs ++ [[renderRegistry file.registry]]

/-- The paragraphs of a file, from the header to the registry. -/
def paragraphs (file : DeclarationFile) : List String :=
  (blockParagraphs file).flatten

theorem joinRows_pair (row block : String) : joinRows [row, block] = row ++ "\n" ++ block := by
  rw [joinRows, String.intercalate_cons_cons, String.intercalate_singleton]

@[simp] theorem joinBlocks_singleton (block : String) : joinBlocks [block] = block :=
  String.intercalate_singleton

theorem joinBlocks_cons (block : String) {rest : List String} (h : rest ≠ []) :
    joinBlocks (block :: rest) = block ++ "\n\n" ++ joinBlocks rest :=
  String.intercalate_cons_of_ne_nil h

theorem joinBlocks_append {front back : List String} (h : front ≠ []) (h' : back ≠ []) :
    joinBlocks (front ++ back) = joinBlocks front ++ "\n\n" ++ joinBlocks back :=
  String.intercalate_append_of_ne_nil h h'

theorem openFirst_ne_nil (row : String) (blocks : List String) : openFirst row blocks ≠ [] := by
  cases blocks with
  | nil => exact List.cons_ne_nil _ _
  | cons block rest => exact List.cons_ne_nil _ _

theorem closeLast_ne_nil (row : String) (blocks : List String) : closeLast row blocks ≠ [] := by
  fun_cases closeLast row blocks with
  | case1 => exact List.cons_ne_nil _ _
  | case2 block => exact List.cons_ne_nil _ _
  | case3 block next rest => exact List.cons_ne_nil _ _

theorem joinBlocks_openFirst (row : String) {blocks : List String} (h : blocks ≠ []) :
    joinBlocks (openFirst row blocks) = row ++ "\n" ++ joinBlocks blocks := by
  cases blocks with
  | nil => exact absurd rfl h
  | cons block rest =>
    rw [openFirst, joinRows_pair]
    cases rest with
    | nil => rw [joinBlocks_singleton, joinBlocks_singleton]
    | cons next rest =>
      rw [joinBlocks_cons _ (List.cons_ne_nil _ _), joinBlocks_cons _ (List.cons_ne_nil _ _)]
      simp only [String.append_assoc]

theorem joinBlocks_closeLast (row : String) {blocks : List String} (h : blocks ≠ []) :
    joinBlocks (closeLast row blocks) = joinBlocks blocks ++ "\n" ++ row := by
  fun_induction closeLast row blocks with
  | case1 => exact absurd rfl h
  | case2 block => rw [joinBlocks_singleton, joinBlocks_singleton, joinRows_pair]
  | case3 block next rest ih =>
    have hrest : next :: rest ≠ [] := List.cons_ne_nil _ _
    rw [joinBlocks_cons _ (closeLast_ne_nil _ _), ih hrest, joinBlocks_cons _ hrest]
    simp only [String.append_assoc]

theorem joinBlocks_interfaceParagraphs (interface : InterfaceDeclaration) :
    joinBlocks (interfaceParagraphs interface) = renderInterface interface := by
  obtain ⟨name, properties⟩ := interface
  rw [interfaceParagraphs, joinBlocks_openFirst _ (closeLast_ne_nil _ _)]
  cases properties with
  | nil => rw [renderInterface, joinRows_pair, List.map_nil, closeLast, joinBlocks_singleton]
  | cons property rest =>
    rw [joinBlocks_closeLast _ (by simp), renderInterface]
    simp only [joinRows, String.intercalate_cons_cons, String.intercalate_singleton,
      String.append_assoc]

/-- Groups of blocks may be joined first, and then joined to one another. -/
theorem joinBlocks_flatten {groups : List (List String)} (h : ∀ group ∈ groups, group ≠ []) :
    joinBlocks groups.flatten = joinBlocks (groups.map joinBlocks) := by
  induction groups with
  | nil => rfl
  | cons group rest ih =>
    obtain ⟨hgroup, hrest⟩ := List.forall_mem_cons.mp h
    cases rest with
    | nil => rw [List.flatten_singleton, List.map_singleton, joinBlocks_singleton]
    | cons next rest =>
      have hflatten : (next :: rest).flatten ≠ [] := by
        rw [List.flatten_cons]
        exact List.append_ne_nil_of_left_ne_nil (hrest next List.mem_cons_self) _
      have hmap : (next :: rest).map joinBlocks ≠ [] := List.cons_ne_nil _ _
      rw [List.flatten_cons, joinBlocks_append hgroup hflatten, ih hrest]
      exact (joinBlocks_cons _ hmap).symm

theorem blockParagraphs_ne_nil {file : DeclarationFile} :
    ∀ group ∈ blockParagraphs file, group ≠ [] := by
  intro group hgroup
  simp only [blockParagraphs, List.mem_append, List.mem_cons, List.mem_map, List.not_mem_nil,
    or_false] at hgroup
  rcases hgroup with ((rfl | ⟨union, -, rfl⟩) | ⟨interface, -, rfl⟩) | rfl
  · exact List.cons_ne_nil _ _
  · exact List.cons_ne_nil _ _
  · exact openFirst_ne_nil _ _
  · exact List.cons_ne_nil _ _

/-- **A file is its paragraphs**, with one empty row between any two of them. -/
theorem renderFile_eq_paragraphs (file : DeclarationFile) :
    renderFile file = joinBlocks (paragraphs file) ++ "\n" := by
  have hblocks : (blockParagraphs file).map joinBlocks = blocks file := by
    simp only [blockParagraphs, blocks, List.map_append, List.map_cons, List.map_nil, List.map_map,
      Function.comp_def, joinBlocks_singleton, joinBlocks_interfaceParagraphs]
  rw [renderFile_eq_blocks, paragraphs, joinBlocks_flatten blockParagraphs_ne_nil, hblocks]

end TypeScript
end SchemaTypes

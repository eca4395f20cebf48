import SchemaTypes.Proofs.TypeScript.DocBlock
import SchemaTypes.Proofs.TypeScript.Key
import SchemaTypes.TypeScript.Render

/-!
# Declarations delimit themselves

The text of a declaration, piece by piece. A member of an interface is its documentation, its key
and its type, and ends at the first semicolon behind the key; the members of a union are literals;
both kinds of declaration are lists between fixed words. From these the whole file: what its text
shows are its unions and, for each of its interfaces, the name and the names and types of the
members (`signatures_eq_of_renderFile_eq`).

Two things have to be assumed, because the writer does not see to them. The names of unions and
interfaces are written as they are and have to be identifiers, and a type must not hold the
semicolon that is to end it.
-/

namespace SchemaTypes
namespace TypeScript

open Text (SelfDelimiting)
open Text.SelfDelimiting (writeSeparated)

/-! ## Joined texts -/

/-- The text of joined parts, each separator with the part behind it. -/
theorem toList_intercalate_cons (separator first : String) (rest : List String) :
    (separator.intercalate (first :: rest)).toList
      = first.toList ++ rest.flatMap fun part => separator.toList ++ part.toList := by
  induction rest generalizing first with
  | nil => simp
  | cons next rest ih =>
    rw [String.intercalate_cons_cons, String.toList_append, String.toList_append, ih,
      List.flatMap_cons]
    simp only [List.append_assoc]

/-- The text of joined parts, each separator with the part before it. -/
theorem toList_intercalate_concat (separator last : String) (front : List String) :
    (separator.intercalate (front ++ [last])).toList
      = (front.flatMap fun part => part.toList ++ separator.toList) ++ last.toList := by
  induction front with
  | nil => simp
  | cons first front ih =>
    rw [List.cons_append, String.intercalate_cons_of_ne_nil (by simp), String.toList_append, ih,
      String.toList_append, List.flatMap_cons]
    simp only [List.append_assoc]

/-! ## Members of interfaces -/

/-- What the text of a member of an interface shows. -/
def signature (property : Property) : String × String :=
  (property.name, property.typeExpression)

/-- A type that the semicolon behind it ends. -/
def EndsAtSemicolon (property : Property) : Prop :=
  ';' ∉ property.typeExpression.toList

theorem toList_renderProperty (property : Property) :
    (renderProperty property).toList = docText property.comment property.defaultValue
      ++ ("  ".toList ++ ((propertyKey property.name).toList ++ [':']) ++ " ".toList)
      ++ (property.typeExpression.toList ++ [';']) := by
  rw [renderProperty, joinRows, toList_intercalate_concat]
  simp [docText]

/-- **A member of an interface shows its name and its type.** -/
theorem selfDelimiting_renderProperty :
    SelfDelimiting EndsAtSemicolon (fun property => (renderProperty property).toList)
      signature := by
  have hdoc : SelfDelimiting EndsAtSemicolon
      (fun property => docText property.comment property.defaultValue)
      fun property => docComment property.comment property.defaultValue :=
    selfDelimiting_docText.comap EndsAtSemicolon
      (fun property => (property.comment, property.defaultValue)) fun _ _ => trivial
  have hkey : SelfDelimiting EndsAtSemicolon
      (fun property => (propertyKey property.name).toList ++ [':']) Property.name :=
    selfDelimiting_propertyKey.comap EndsAtSemicolon Property.name fun _ _ => trivial
  have htype : SelfDelimiting EndsAtSemicolon
      (fun property => property.typeExpression.toList ++ [';'])
      fun property => property.typeExpression.toList :=
    (SelfDelimiting.terminated ';').comap EndsAtSemicolon
      (fun property => property.typeExpression.toList) fun _ h => h
  have hall := (hdoc.append (hkey.between "  ".toList " ".toList)).append htype
  simp only [toList_renderProperty]
  refine hall.map_view fun a b _ _ h => ?_
  simp only [Prod.mk.injEq] at h
  exact Prod.ext h.1.2 (String.toList_inj.mp h.2)

/-! ## Unions -/

/-- A union whose name ends at the space behind it. -/
def EndsAtSpace (union : UnionDeclaration) : Prop :=
  ' ' ∉ union.name.toList

/-- A member of a union, on a row of its own. -/
def memberText (member : String) : List Char :=
  "\n  ".toList ++ (literal member).toList

theorem toList_memberRows (member : String) (rest : List String) :
    (memberRows (member :: rest)).flatMap (fun row => "\n".toList ++ row.toList)
      = writeSeparated memberText " |".toList ";".toList " never;".toList (member :: rest) := by
  induction rest generalizing member with
  | nil => simp [memberRows, writeSeparated, memberText]
  | cons next rest ih =>
    rw [memberRows, List.flatMap_cons, ih]
    simp [writeSeparated, memberText]

theorem toList_renderUnion (union : UnionDeclaration) :
    (renderUnion union).toList = "export type ".toList
      ++ ((union.name.toList ++ [' ']) ++ "=".toList
      ++ writeSeparated memberText " |".toList ";".toList " never;".toList union.members) := by
  obtain ⟨name, members⟩ := union
  cases members with
  | nil => simp [renderUnion, writeSeparated]
  | cons member rest =>
    simp only [renderUnion, joinRows, toList_intercalate_cons, toList_memberRows]
    simp

/-- **A union shows its name and its members.** -/
theorem selfDelimiting_renderUnion :
    SelfDelimiting EndsAtSpace
      (fun union => (renderUnion union).toList) id := by
  have hname : SelfDelimiting EndsAtSpace
      (fun union => union.name.toList ++ [' ']) fun union => union.name.toList :=
    (SelfDelimiting.terminated ' ').comap EndsAtSpace (fun union => union.name.toList)
      fun _ h => h
  have hmember : SelfDelimiting (fun _ => True) memberText (id : String → String) :=
    ((SelfDelimiting.const _ "\n  ".toList).append selfDelimiting_literal).map_view
      fun _ _ _ _ h => (Prod.mk.inj h).2
  have hmembers := (hmember.separated " |".toList ";".toList " never;".toList (by simp)
    (by simp [memberText])).comap EndsAtSpace (fun union => union.members) fun _ _ _ _ => trivial
  have hall := (SelfDelimiting.const _ "export type ".toList).append
    ((hname.append (SelfDelimiting.const _ "=".toList)).append hmembers)
  simp only [toList_renderUnion]
  refine hall.map_view fun a b _ _ h => ?_
  simp only [Prod.mk.injEq, List.map_id, true_and, and_true] at h
  obtain ⟨name, members⟩ := a
  obtain ⟨name', members'⟩ := b
  rw [id, id, UnionDeclaration.mk.injEq]
  exact ⟨String.toList_inj.mp h.1, h.2⟩

/-! ## Interfaces -/

/-- An interface whose name ends at a space and whose types end at their semicolons. -/
structure InterfaceIsReadable (interface : InterfaceDeclaration) : Prop where
  name : ' ' ∉ interface.name.toList
  types : ∀ property ∈ interface.properties, EndsAtSemicolon property

/-- What the text of an interface shows. -/
def interfaceSignature (interface : InterfaceDeclaration) : String × List (String × String) :=
  (interface.name, interface.properties.map signature)

theorem toList_renderInterface (interface : InterfaceDeclaration) :
    (renderInterface interface).toList = "export interface ".toList
      ++ ((interface.name.toList ++ [' ']) ++ "\x7b\n".toList
      ++ writeSeparated (fun property => (renderProperty property).toList) "\n\n".toList
        "\n\x7d".toList "\x7d".toList interface.properties) := by
  obtain ⟨name, properties⟩ := interface
  cases properties with
  | nil => simp [renderInterface, joinRows, writeSeparated]
  | cons property rest =>
    simp only [renderInterface, joinRows, joinBlocks, List.map_cons]
    rw [String.intercalate_cons_cons, String.intercalate_cons_cons, String.intercalate_singleton]
    simp only [String.toList_append, toList_intercalate_cons, List.flatMap_map]
    simp [writeSeparated]

/-- The documentation of a member is the first thing in its text. -/
theorem exists_toList_renderProperty (property : Property) :
    ∃ rest, (renderProperty property).toList = "  /**\n".toList ++ rest := by
  rw [toList_renderProperty, docText_eq]
  simp only [List.append_assoc, List.append_cancel_left_eq, exists_eq']

/-- **An interface shows its name and the names and types of its members.** -/
theorem selfDelimiting_renderInterface :
    SelfDelimiting InterfaceIsReadable (fun interface => (renderInterface interface).toList)
      interfaceSignature := by
  have hname : SelfDelimiting InterfaceIsReadable
      (fun interface => interface.name.toList ++ [' ']) fun interface => interface.name.toList :=
    (SelfDelimiting.terminated ' ').comap InterfaceIsReadable
      (fun interface => interface.name.toList) fun _ h => h.name
  have hempty : ∀ property, EndsAtSemicolon property → ∀ r s,
      (renderProperty property).toList ++ r ≠ "\x7d".toList ++ s := by
    intro property _ r s
    obtain ⟨rest, h⟩ := exists_toList_renderProperty property
    simp [h]
  have hproperties := (selfDelimiting_renderProperty.separated "\n\n".toList "\n\x7d".toList
    "\x7d".toList (by simp) hempty).comap InterfaceIsReadable
      (fun interface => interface.properties) fun _ h => h.types
  have hall := (SelfDelimiting.const _ "export interface ".toList).append
    ((hname.append (SelfDelimiting.const _ "\x7b\n".toList)).append hproperties)
  simp only [toList_renderInterface]
  refine hall.map_view fun a b _ _ h => ?_
  simp only [Prod.mk.injEq, true_and, and_true] at h
  exact Prod.ext (String.toList_inj.mp h.1) h.2

/-! ## Files -/

/-- A block behind an empty row. -/
def blockText (block : String) : List Char :=
  "\n\n".toList ++ block.toList

theorem toList_renderFile (file : DeclarationFile) :
    (renderFile file).toList = header.toList
      ++ (file.unions.flatMap (fun union => blockText (renderUnion union))
      ++ (file.interfaces.flatMap (fun interface => blockText (renderInterface interface))
      ++ (blockText (renderRegistry file.registry) ++ "\n".toList))) := by
  rw [renderFile, joinBlocks, List.cons_append, List.cons_append, String.toList_append,
    toList_intercalate_cons]
  simp [List.flatMap_map, blockText]

/-- A file whose names end at spaces and whose types end at their semicolons. -/
structure FileIsReadable (file : DeclarationFile) : Prop where
  unions : ∀ union ∈ file.unions, EndsAtSpace union
  interfaces : ∀ interface ∈ file.interfaces, InterfaceIsReadable interface

theorem exists_toList_renderRegistry (registry : Registry) :
    ∃ rest, (renderRegistry registry).toList = "declare module ".toList ++ rest := by
  rw [renderRegistry, joinRows, List.cons_append, List.cons_append, toList_intercalate_cons,
    String.toList_append, String.toList_append]
  simp only [List.append_assoc, List.append_cancel_left_eq, exists_eq']

/-- Behind the unions comes no union. -/
theorem not_union_isPrefix (file : DeclarationFile) (union : UnionDeclaration) :
    ¬ blockText (renderUnion union) <+:
      file.interfaces.flatMap (fun interface => blockText (renderInterface interface))
        ++ (blockText (renderRegistry file.registry) ++ "\n".toList) := by
  rintro ⟨rest, h⟩
  rw [blockText, toList_renderUnion] at h
  cases hinterfaces : file.interfaces with
  | nil =>
    obtain ⟨registry, hregistry⟩ := exists_toList_renderRegistry file.registry
    rw [hinterfaces, List.flatMap_nil, blockText, hregistry] at h
    simp at h
  | cons interface others =>
    rw [hinterfaces, List.flatMap_cons, blockText, toList_renderInterface] at h
    simp at h

/-- Behind the interfaces comes no interface. -/
theorem not_interface_isPrefix (registry : Registry) (interface : InterfaceDeclaration) :
    ¬ blockText (renderInterface interface) <+:
      blockText (renderRegistry registry) ++ "\n".toList := by
  rintro ⟨rest, h⟩
  obtain ⟨registryRest, hregistry⟩ := exists_toList_renderRegistry registry
  rw [blockText, toList_renderInterface, blockText, hregistry] at h
  simp at h

/-- **The text of a file determines its unions and what its interfaces show.** -/
theorem signatures_eq_of_renderFile_eq {file other : DeclarationFile} (hfile : FileIsReadable file)
    (hother : FileIsReadable other) (h : renderFile file = renderFile other) :
    file.unions = other.unions ∧
      file.interfaces.map interfaceSignature = other.interfaces.map interfaceSignature := by
  have htext := congrArg String.toList h
  rw [toList_renderFile, toList_renderFile] at htext
  have hunion : SelfDelimiting EndsAtSpace
      (fun union => blockText (renderUnion union)) id :=
    ((SelfDelimiting.const _ "\n\n".toList).append selfDelimiting_renderUnion).map_view
      fun _ _ _ _ h => (Prod.mk.inj h).2
  have hinterface : SelfDelimiting InterfaceIsReadable
      (fun interface => blockText (renderInterface interface)) interfaceSignature :=
    ((SelfDelimiting.const _ "\n\n".toList).append selfDelimiting_renderInterface).map_view
      fun _ _ _ _ h => (Prod.mk.inj h).2
  obtain ⟨hunions, htext⟩ := hunion.eq_of_flatMap hfile.unions hother.unions
    (fun union _ => not_union_isPrefix file union) (fun union _ => not_union_isPrefix other union)
    (List.append_cancel_left htext)
  obtain ⟨hinterfaces, -⟩ := hinterface.eq_of_flatMap hfile.interfaces hother.interfaces
    (fun interface _ => not_interface_isPrefix file.registry interface)
    (fun interface _ => not_interface_isPrefix other.registry interface) htext
  rw [List.map_id, List.map_id] at hunions
  exact ⟨hunions, hinterfaces⟩

end TypeScript
end SchemaTypes

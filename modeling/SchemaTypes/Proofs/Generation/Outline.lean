import SchemaTypes.Generation
import SchemaTypes.Proofs.TypeExpression
import SchemaTypes.Proofs.TypeScript.Declarations

/-!
# What a generated text says about its schema

A generated text is meant to be read as types. The outline of a schema is what such a reader may
rely on: the enums with their labels, the tables, and for every column its name, its type
expression and whether it may be null, all in order. Comments, defaults and the names of schemas
are not part of it.

The text determines the outline (`outline_eq_of_generate_eq`). Labels, column names, native types,
comments and defaults may be any texts; the names of enums and tables have to be identifiers, since
they are written without quotes. So nothing that a column or a label is called, and nothing that is
said about a column, can pass for a declaration, for a member, or for the end of one.
-/

namespace SchemaTypes

/-- What a generated text says about a column. -/
structure ColumnOutline where
  name : String
  typeExpression : String
  isNullable : Bool
deriving Repr, DecidableEq

/-- What a generated text says about an enum. -/
structure EnumOutline where
  name : String
  labels : List String
deriving Repr, DecidableEq

/-- What a generated text says about a table. -/
structure TableOutline where
  name : String
  columns : List ColumnOutline
deriving Repr, DecidableEq

/-- What a generated text says about a schema. -/
structure Outline where
  enums : List EnumOutline
  tables : List TableOutline
deriving Repr, DecidableEq

/-- The outline of a column among the given enums. -/
def Column.outline (column : Column) (enumNames : List String) : ColumnOutline where
  name := column.name
  typeExpression := column.typeExpression enumNames
  isNullable := column.isNullable

/-- The outline of an enum. -/
def EnumType.outline (enum : EnumType) : EnumOutline where
  name := enum.name
  labels := enum.labels

/-- The outline of a table among the given enums. -/
def Table.outline (table : Table) (enumNames : List String) : TableOutline where
  name := table.name
  columns := table.columns.map (·.outline enumNames)

namespace DatabaseSchema

/-- The outline of a schema. -/
def outline (schema : DatabaseSchema) : Outline where
  enums := schema.enums.map (·.outline)
  tables := schema.tables.map (·.outline schema.enumNames)

/-- A schema whose enums and tables have identifiers as their names. -/
structure HasIdentifierNames (schema : DatabaseSchema) : Prop where
  enums : ∀ name ∈ schema.enumNames, TypeScript.isIdentifier name.toList = true
  tables : ∀ name ∈ schema.tableNames, TypeScript.isIdentifier name.toList = true

/-- A schema without collisions has a text. -/
theorem generate_of_collision?_eq_none {schema : DatabaseSchema} (h : schema.collision? = none) :
    schema.generate = .ok (TypeScript.renderFile schema.declarationFile) := by
  rw [generate, build, h]
  rfl

/-- A text that was generated is the text of the schema's declarations. -/
theorem eq_of_generate_eq_ok {schema : DatabaseSchema} {text : String}
    (h : schema.generate = .ok text) : TypeScript.renderFile schema.declarationFile = text := by
  unfold generate build at h
  cases hcollision : schema.collision? with
  | none =>
    rw [hcollision] at h
    exact Except.ok.inj h
  | some collision =>
    rw [hcollision] at h
    cases h

/-- The declarations of a schema with identifiers as names can be told apart in their text. -/
theorem fileIsReadable {schema : DatabaseSchema} (h : schema.HasIdentifierNames) :
    TypeScript.FileIsReadable schema.declarationFile where
  unions := by
    intro union hunion
    obtain ⟨enum, henum, rfl⟩ := List.mem_map.mp hunion
    exact TypeScript.notMem_of_isIdentifier (h.enums enum.name (List.mem_map_of_mem henum))
      (by decide)
  interfaces := by
    intro interface hinterface
    obtain ⟨table, htable, rfl⟩ := List.mem_map.mp hinterface
    refine ⟨TypeScript.notMem_of_isIdentifier (h.tables table.name (List.mem_map_of_mem htable))
      (by decide), ?_⟩
    intro property hproperty
    obtain ⟨column, -, rfl⟩ := List.mem_map.mp hproperty
    exact column.semicolon_notMem_typeExpression h.enums

/-- The outline of a column follows from its name and its type expression. -/
theorem outline_eq_of_signature_eq {column other : Column} {enumNames otherNames : List String}
    (hnames : ∀ name ∈ enumNames, TypeScript.isIdentifier name.toList = true)
    (hothers : ∀ name ∈ otherNames, TypeScript.isIdentifier name.toList = true)
    (h : TypeScript.signature (column.property enumNames)
      = TypeScript.signature (other.property otherNames)) :
    column.outline enumNames = other.outline otherNames := by
  obtain ⟨hname, htype⟩ := Prod.mk.inj h
  rw [Column.outline, Column.outline, ColumnOutline.mk.injEq]
  exact ⟨hname, htype, Column.isNullable_eq_of_typeExpression_eq hnames hothers htype⟩

/-- Lists agree after one function where they agree after another, if single items do. -/
theorem map_eq_map_of_imp {α β γ : Type} {f f' : α → β} {g g' : α → γ}
    (h : ∀ a b, f a = f' b → g a = g' b) {as bs : List α} (hmap : as.map f = bs.map f') :
    as.map g = bs.map g' := by
  induction as generalizing bs with
  | nil =>
    rw [List.map_nil, eq_comm, List.map_eq_nil_iff] at hmap
    rw [hmap, List.map_nil, List.map_nil]
  | cons a as ih =>
    cases bs with
    | nil => cases hmap
    | cons b bs =>
      obtain ⟨hhead, htail⟩ := List.cons.inj hmap
      rw [List.map_cons, List.map_cons, h a b hhead, ih htail]

/-- **The text determines the types.** Two schemas from which the same text is generated have the
same outline. -/
theorem outline_eq_of_generate_eq {schema other : DatabaseSchema} {text : String}
    (hschema : schema.HasIdentifierNames) (hother : other.HasIdentifierNames)
    (h : schema.generate = .ok text) (h' : other.generate = .ok text) :
    schema.outline = other.outline := by
  have hfile := (eq_of_generate_eq_ok h).trans (eq_of_generate_eq_ok h').symm
  obtain ⟨hunions, hinterfaces⟩ := TypeScript.signatures_eq_of_renderFile_eq
    (fileIsReadable hschema) (fileIsReadable hother) hfile
  have henums : schema.enums.map (·.outline) = other.enums.map (·.outline) := by
    refine map_eq_map_of_imp (fun enum enum' heq => ?_) hunions
    rw [EnumType.outline, EnumType.outline, EnumOutline.mk.injEq]
    exact UnionDeclaration.mk.inj heq
  have htables : schema.tables.map (·.outline schema.enumNames)
      = other.tables.map (·.outline other.enumNames) := by
    simp only [declarationFile, List.map_map] at hinterfaces
    refine map_eq_map_of_imp (fun table table' heq => ?_) hinterfaces
    obtain ⟨hname, hcolumns⟩ := Prod.mk.inj heq
    rw [Table.outline, Table.outline, TableOutline.mk.injEq]
    simp only [Table.declaration, List.map_map] at hname hcolumns
    exact ⟨hname, map_eq_map_of_imp
      (fun _ _ => outline_eq_of_signature_eq hschema.enums hother.enums) hcolumns⟩
  rw [outline, outline, henums, htables]

/-- A schema with a column whose name and a label that look like code, with some annotations. -/
def annotated (schemaName : String) (defaultValue comment : Option String) : DatabaseSchema where
  schemaName := schemaName
  tables := [⟨"users", schemaName, [⟨"it's; \x7d\n", "mood", true, defaultValue, comment⟩]⟩]
  enums := [⟨"mood", schemaName, ["", "'; export type"]⟩]

/-- An empty comment, a default that is the word `null` and the name of the schema leave no trace,
so two schemas that differ in them have one text and one outline. -/
theorem outline_annotated_eq :
    (annotated "public" none none).generate
        = .ok (TypeScript.renderFile (annotated "public" none none).declarationFile) ∧
      (annotated "audit" (some "null") (some "")).generate
        = .ok (TypeScript.renderFile (annotated "public" none none).declarationFile) ∧
      (annotated "public" none none).outline
        = (annotated "audit" (some "null") (some "")).outline := by
  have hpublic := generate_of_collision?_eq_none
    (show (annotated "public" none none).collision? = none by cbv)
  have haudit := generate_of_collision?_eq_none
    (show (annotated "audit" (some "null") (some "")).collision? = none by cbv)
  have hnames (schemaName : String) (defaultValue comment : Option String) :
      (annotated schemaName defaultValue comment).HasIdentifierNames :=
    ⟨by simp [annotated, enumNames]; decide +kernel,
      by simp [annotated, tableNames]; decide +kernel⟩
  exact ⟨hpublic, haudit, outline_eq_of_generate_eq (hnames _ _ _) (hnames _ _ _) hpublic haudit⟩

end DatabaseSchema
end SchemaTypes

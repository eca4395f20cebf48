import SchemaTypes.Declaration.Build

/-!
# Places of columns

A column is one of a table, and the table is one of a schema; the two numbers are its place. In the
file that is built for the schema, the member for the column stands at the same place: the interface
has the number of the table, and the member has the number of the column
(`property?_declarationFile`). So a place says which member belongs to which column without a name,
and also if names should be repeated.

Places have an order, which goes through the tables, and within a table through its columns.
-/

namespace SchemaTypes

/-- The number of a table, and the number of a column in it. -/
structure ColumnPlace where
  table : Nat
  column : Nat
deriving Repr, DecidableEq

/-- The column at a place. -/
def DatabaseSchema.column? (schema : DatabaseSchema) (place : ColumnPlace) : Option Column :=
  schema.tables[place.table]?.bind fun table => table.columns[place.column]?

/-- The member at a place. -/
def DeclarationFile.property? (file : DeclarationFile) (place : ColumnPlace) : Option Property :=
  file.interfaces[place.table]?.bind fun interface => interface.properties[place.column]?

/-- The member for a column stands at the place of the column. -/
theorem DatabaseSchema.property?_declarationFile (schema : DatabaseSchema) (place : ColumnPlace) :
    schema.declarationFile.property? place
      = (schema.column? place).map (·.property schema.enumNames) := by
  rw [DeclarationFile.property?, column?, declarationFile, List.getElem?_map]
  cases schema.tables[place.table]? with
  | none => rfl
  | some table => exact List.getElem?_map

namespace ColumnPlace

/-- The first place comes before the second one. -/
def Before (place other : ColumnPlace) : Prop :=
  place.table < other.table ∨ place.table = other.table ∧ place.column < other.column

variable {place other : ColumnPlace}

theorem Before.asymm (h : place.Before other) : ¬ other.Before place := by
  unfold Before at h ⊢
  omega

/-- Of two places one comes before the other, or they are the same. -/
theorem before_or_eq_or_before (place other : ColumnPlace) :
    place.Before other ∨ place = other ∨ other.Before place := by
  obtain ⟨table, column⟩ := place
  obtain ⟨table', column'⟩ := other
  rw [mk.injEq]
  unfold Before
  dsimp only
  omega

end ColumnPlace
end SchemaTypes

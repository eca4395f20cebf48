import SchemaTypes.Declaration.Build

/-!
# The form of a type expression

All type expressions have one form: the name of a type, brackets if values of that type come in
arrays, and `null` beside it if the column may be empty. The name is that of an enum or of one of
five built-in types; arrays are only made of the latter.

A `TypeForm` is a type expression in these parts. The form of a column is found without taking its
type expression apart (`Column.typeForm`), and the expression is the form written out
(`Column.typeExpression_eq_text`).
-/

namespace SchemaTypes

/-- The parts of a type expression. -/
structure TypeForm where
  /-- The type that the expression refers to. -/
  element : String
  isArray : Bool
  isNullable : Bool
deriving Repr, DecidableEq

/-- A form written out. -/
def TypeForm.text (form : TypeForm) : String :=
  TypeMap.applyNullability (if form.isArray then form.element ++ "[]" else form.element)
    form.isNullable

namespace TypeMap

/-- What the table says of each native type it lists: the scalar, and whether it is an array. -/
def entries : List (String × Scalar × Bool) :=
  scalars.map (fun entry => (entry.1, entry.2, false))
    ++ scalars.map (fun entry => ("_" ++ entry.1, entry.2, true))

/-- The scalar of a native type that is no enum, and whether it is an array. -/
def entryOf (nativeType : String) : Scalar × Bool :=
  (entries.lookup nativeType).getD (.unknown, false)

/-- The text of a scalar or of an array of it. -/
def entryText (entry : Scalar × Bool) : String :=
  if entry.2 then entry.1.text ++ "[]" else entry.1.text

theorem table_eq_map : table = entries.map fun entry => (entry.1, entryText entry.2) := by
  simp [table, entries, entryText, Function.comp_def]

/-- Looking up in a table of images is looking up the image. -/
theorem lookup_map_eq {α β : Type} (f : α → β) (key : String) (rows : List (String × α)) :
    (rows.map fun row => (row.1, f row.2)).lookup key = (rows.lookup key).map f := by
  induction rows with
  | nil => rfl
  | cons row rows ih =>
    rw [List.map_cons, List.lookup_cons, List.lookup_cons, ih]
    cases key == row.1 <;> rfl

/-- The type of what is no enum is the text of its entry. -/
theorem mapType_of_notMem {nativeType : String} {enumNames : List String}
    (h : nativeType ∉ enumNames) :
    mapType nativeType enumNames = entryText (entryOf nativeType) := by
  rw [mapType, if_neg h, table_eq_map, lookup_map_eq, entryOf]
  cases entries.lookup nativeType with
  | none => rfl
  | some entry => rfl

end TypeMap

namespace Column

/-- The form of a column's type. -/
def typeForm (column : Column) (enumNames : List String) : TypeForm :=
  if column.nativeType ∈ enumNames then ⟨column.nativeType, false, column.isNullable⟩
  else
    ⟨(TypeMap.entryOf column.nativeType).1.text, (TypeMap.entryOf column.nativeType).2,
      column.isNullable⟩

variable {column : Column} {enumNames : List String}

/-- An enum is referred to by its name. -/
theorem element_of_mem (h : column.nativeType ∈ enumNames) :
    (column.typeForm enumNames).element = column.nativeType := by
  rw [typeForm, if_pos h]

/-- What is no enum is referred to by the name of a built-in type. -/
theorem element_of_notMem (h : column.nativeType ∉ enumNames) :
    (column.typeForm enumNames).element = (TypeMap.entryOf column.nativeType).1.text := by
  rw [typeForm, if_neg h]

/-- **A type expression is its form written out.** -/
theorem typeExpression_eq_text (column : Column) (enumNames : List String) :
    column.typeExpression enumNames = (column.typeForm enumNames).text := by
  rw [typeExpression, typeForm]
  split
  · rename_i h
    rw [TypeMap.mapType, if_pos h]
    rfl
  · rename_i h
    rw [TypeMap.mapType_of_notMem h]
    rfl

end Column
end SchemaTypes

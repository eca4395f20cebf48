import SchemaTypes.Proofs.TypeScript.Key
import SchemaTypes.TypeMap

/-!
# The text of type expressions

A type is one word: the name of an enum, a word of the table of types, perhaps with brackets, or
the word for what the table does not list. As long as the names of enums are identifiers, none of
these holds a space or a semicolon. Hence the semicolon behind a type expression is the first one,
and the expression shows whether `null` was added to it, since only that brings a space.
-/

namespace SchemaTypes
namespace TypeMap

/-- A character that separates the words around a type. -/
def IsSeparator (c : Char) : Prop :=
  c = ' ' ∨ c = ';'

/-- An entry of the table is a scalar or a list of scalars. -/
theorem exists_scalar_of_lookup {nativeType type : String}
    (h : table.lookup nativeType = some type) :
    ∃ scalar : Scalar, type = scalar.text ∨ type = scalar.text ++ "[]" := by
  obtain ⟨front, back, htable, -⟩ := List.lookup_eq_some_iff.mp h
  have hmem : (nativeType, type) ∈ table := htable ▸ List.mem_append_right _ List.mem_cons_self
  rcases List.mem_append.mp hmem with hscalar | harray
  · obtain ⟨entry, -, heq⟩ := List.mem_map.mp hscalar
    exact ⟨entry.2, Or.inl (Prod.mk.inj heq).2.symm⟩
  · obtain ⟨entry, -, heq⟩ := List.mem_map.mp harray
    exact ⟨entry.2, Or.inr (Prod.mk.inj heq).2.symm⟩

theorem notMem_text {c : Char} (hc : IsSeparator c) (scalar : Scalar) :
    c ∉ scalar.text.toList := by
  rcases hc with rfl | rfl <;> cases scalar <;> simp [Scalar.text]

/-- An entry of the table is one word. -/
theorem notMem_of_lookup {nativeType type : String} {c : Char} (hc : IsSeparator c)
    (h : table.lookup nativeType = some type) : c ∉ type.toList := by
  obtain ⟨scalar, rfl | rfl⟩ := exists_scalar_of_lookup h
  · exact notMem_text hc scalar
  · rw [String.toList_append, List.mem_append]
    refine not_or.mpr ⟨notMem_text hc scalar, ?_⟩
    rcases hc with rfl | rfl <;> simp

/-- **A type is one word** if the names of enums are identifiers. -/
theorem notMem_mapType {enumNames : List String}
    (hnames : ∀ name ∈ enumNames, TypeScript.isIdentifier name.toList = true)
    {c : Char} (hc : IsSeparator c) (nativeType : String) :
    c ∉ (mapType nativeType enumNames).toList := by
  unfold mapType
  split
  · rename_i hmem
    refine TypeScript.notMem_of_isIdentifier (hnames nativeType hmem) ?_
    rcases hc with rfl | rfl <;> decide
  · cases hlookup : table.lookup nativeType with
    | none => exact notMem_text hc .unknown
    | some type => exact notMem_of_lookup hc hlookup

theorem toList_applyNullability (baseType : String) (isNullable : Bool) :
    (applyNullability baseType isNullable).toList
      = baseType.toList ++ if isNullable then " | null".toList else [] := by
  cases isNullable with
  | false => rw [applyNullability, if_neg (by decide), if_neg (by decide), List.append_nil]
  | true => rw [applyNullability, if_pos rfl, if_pos rfl, String.toList_append]

/-- No expression holds a semicolon that its type does not hold. -/
theorem notMem_applyNullability {baseType : String} (h : ';' ∉ baseType.toList)
    (isNullable : Bool) : ';' ∉ (applyNullability baseType isNullable).toList := by
  rw [toList_applyNullability, List.mem_append]
  refine not_or.mpr ⟨h, ?_⟩
  cases isNullable <;> simp

/-- An expression for a type of one word holds a space exactly if `null` was added. -/
theorem mem_applyNullability_iff {baseType : String} (h : ' ' ∉ baseType.toList)
    (isNullable : Bool) :
    ' ' ∈ (applyNullability baseType isNullable).toList ↔ isNullable = true := by
  rw [toList_applyNullability, List.mem_append]
  cases isNullable <;> simp [h]

end TypeMap

namespace Column

/-- **Equal type expressions are equally nullable**, whatever the enums are. -/
theorem isNullable_eq_of_typeExpression_eq {column other : Column}
    {enumNames otherNames : List String}
    (hnames : ∀ name ∈ enumNames, TypeScript.isIdentifier name.toList = true)
    (hothers : ∀ name ∈ otherNames, TypeScript.isIdentifier name.toList = true)
    (h : column.typeExpression enumNames = other.typeExpression otherNames) :
    column.isNullable = other.isNullable := by
  have hspace := TypeMap.mem_applyNullability_iff
    (TypeMap.notMem_mapType hnames (Or.inl rfl) column.nativeType) column.isNullable
  have hother := TypeMap.mem_applyNullability_iff
    (TypeMap.notMem_mapType hothers (Or.inl rfl) other.nativeType) other.isNullable
  rw [typeExpression, typeExpression] at h
  rw [h] at hspace
  exact Bool.eq_iff_iff.mpr (hspace.symm.trans hother)

/-- A type expression holds no semicolon if the names of enums are identifiers. -/
theorem semicolon_notMem_typeExpression {enumNames : List String}
    (hnames : ∀ name ∈ enumNames, TypeScript.isIdentifier name.toList = true)
    (column : Column) : ';' ∉ (column.typeExpression enumNames).toList :=
  TypeMap.notMem_applyNullability (TypeMap.notMem_mapType hnames (Or.inr rfl) _) _

end Column
end SchemaTypes

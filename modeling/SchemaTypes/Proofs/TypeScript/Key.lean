import SchemaTypes.Proofs.TypeScript.LiteralReader
import SchemaTypes.TypeScript.Render

/-!
# Keys delimit themselves

A key is a bare identifier, perhaps with a line feed behind it, or a literal. The first character
tells which: no identifier begins with a quote. A bare key holds no colon, so the first colon ends
it, and a literal ends at its own closing quote. So a key with its colon shows the name it was
written for, whatever the name is (`selfDelimiting_propertyKey`).
-/

namespace SchemaTypes
namespace TypeScript

/-! ## Identifiers -/

/-- What may begin an identifier may also continue it. -/
theorem isIdentifierPart_of_isIdentifierStart {c : Char} (h : isIdentifierStart c = true) :
    isIdentifierPart c = true := by
  simp only [isIdentifierStart, Bool.or_eq_true] at h
  simp only [isIdentifierPart, Char.isAlphanum, Bool.or_eq_true]
  exact h.imp_left fun h => h.imp_left Or.inl

/-- An identifier consists of the characters of identifiers. -/
theorem isIdentifierPart_of_mem {cs : List Char} (h : isIdentifier cs = true) {c : Char}
    (hc : c ∈ cs) : isIdentifierPart c = true := by
  cases cs with
  | nil => cases hc
  | cons first rest =>
    rw [isIdentifier, Bool.and_eq_true, List.all_eq_true] at h
    rcases List.mem_cons.mp hc with rfl | hc
    · exact isIdentifierPart_of_isIdentifierStart h.1
    · exact h.2 c hc

/-- What is no character of identifiers is in none of them. -/
theorem notMem_of_isIdentifier {cs : List Char} (h : isIdentifier cs = true) {c : Char}
    (hc : isIdentifierPart c = false) : c ∉ cs := by
  intro hmem
  rw [isIdentifierPart_of_mem h hmem] at hc
  cases hc

/-! ## Bare keys -/

/-- A bare key is an identifier, or one with a line feed behind it. -/
theorem isBareKey_iff {cs : List Char} :
    isBareKey cs = true ↔
      ∃ name, isIdentifier name = true ∧ (cs = name ∨ cs = name ++ ['\n']) := by
  rw [isBareKey, Bool.or_eq_true, Bool.and_eq_true, beq_iff_eq]
  constructor
  · rintro (h | ⟨hlast, h⟩)
    · exact ⟨cs, h, Or.inl rfl⟩
    · obtain ⟨name, rfl⟩ := List.getLast?_eq_some_iff.mp hlast
      exact ⟨name, by rwa [List.dropLast_concat] at h, Or.inr rfl⟩
  · rintro ⟨name, h, rfl | rfl⟩
    · exact Or.inl h
    · exact Or.inr ⟨List.getLast?_concat, by rwa [List.dropLast_concat]⟩

/-- A bare key begins as an identifier does. -/
theorem exists_start_of_isBareKey {cs : List Char} (h : isBareKey cs = true) :
    ∃ first rest, cs = first :: rest ∧ isIdentifierStart first = true := by
  obtain ⟨name, hname, hcs⟩ := isBareKey_iff.mp h
  cases name with
  | nil => cases hname
  | cons first rest =>
    rw [isIdentifier, Bool.and_eq_true] at hname
    rcases hcs with rfl | rfl
    · exact ⟨first, rest, rfl, hname.1⟩
    · exact ⟨first, rest ++ ['\n'], rfl, hname.1⟩

/-- A bare key holds no character but those of identifiers and a line feed. -/
theorem notMem_of_isBareKey {cs : List Char} (h : isBareKey cs = true) {c : Char}
    (hc : isIdentifierPart c = false) (hne : c ≠ '\n') : c ∉ cs := by
  obtain ⟨name, hname, rfl | rfl⟩ := isBareKey_iff.mp h
  · exact notMem_of_isIdentifier hname hc
  · rw [List.mem_append, List.mem_singleton]
    exact not_or.mpr ⟨notMem_of_isIdentifier hname hc, hne⟩

/-- A bare key is no beginning of a literal, nor a literal of a bare key. -/
theorem append_ne_literal_append {cs : List Char} (h : isBareKey cs = true) (s : String)
    (r t : List Char) : cs ++ r ≠ (literal s).toList ++ t := by
  obtain ⟨first, rest, rfl, hfirst⟩ := exists_start_of_isBareKey h
  rw [toList_literal]
  intro heq
  rw [(List.cons.inj heq).1] at hfirst
  exact absurd hfirst (by decide)

/-! ## Keys -/

theorem propertyKey_of_isBareKey {name : String} (h : isBareKey name.toList = true) :
    propertyKey name = name :=
  if_pos h

theorem propertyKey_of_not_isBareKey {name : String} (h : ¬ isBareKey name.toList = true) :
    propertyKey name = literal name :=
  if_neg h

/-- **A key with its colon shows its name.** -/
theorem selfDelimiting_propertyKey :
    Text.SelfDelimiting (fun _ => True) (fun name => (propertyKey name).toList ++ [':'])
      (id : String → String) := by
  intro a b _ _ r s h
  dsimp only at h
  by_cases ha : isBareKey a.toList = true
  · rw [propertyKey_of_isBareKey ha] at h
    by_cases hb : isBareKey b.toList = true
    · rw [propertyKey_of_isBareKey hb] at h
      obtain ⟨hab, hrs⟩ := Text.SelfDelimiting.terminated ':'
        (notMem_of_isBareKey ha (by decide) (by decide))
        (notMem_of_isBareKey hb (by decide) (by decide)) h
      exact ⟨String.toList_inj.mp hab, hrs⟩
    · rw [propertyKey_of_not_isBareKey hb, List.append_assoc, List.append_assoc] at h
      exact absurd h (append_ne_literal_append ha b _ _)
  · rw [propertyKey_of_not_isBareKey ha] at h
    by_cases hb : isBareKey b.toList = true
    · rw [propertyKey_of_isBareKey hb, List.append_assoc, List.append_assoc] at h
      exact absurd h.symm (append_ne_literal_append hb a _ _)
    · rw [propertyKey_of_not_isBareKey hb, List.append_assoc, List.append_assoc] at h
      obtain ⟨hab, h⟩ := selfDelimiting_literal trivial trivial h
      exact ⟨hab, List.append_cancel_left h⟩

end TypeScript
end SchemaTypes

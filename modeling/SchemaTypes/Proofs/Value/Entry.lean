import SchemaTypes.Validation.SchemaRecords

/-!
# Entries of maps

A map is looked up by texts: it holds under a text the value of the first entry with this key. What
is written under a text is found there, and under other texts nothing has changed
(`field?_insertEntry`); a map that is written out of fields holds what was written first under a
name (`field?_ofFields`). If the keys are different, as they are in a map, the order of the entries
does not matter, and what a map holds under a text is what is in an entry with this key
(`field?_eq_some_iff_mem`).
-/

namespace SchemaTypes
namespace Value

theorem isText_iff {value : Value} {name : String} :
    value.isText name = true ↔ value = .text name := by
  cases value <;> simp [isText]

/-- A text is the same key as a value just if this is the text. -/
theorem sameKey_text (value : Value) (name : String) :
    value.sameKey (.text name) = value.isText name := by
  cases value with
  | float x =>
    have hratio : (Value.text name).toRatio? = none := rfl
    unfold sameKey
    rw [hratio]
    cases (Value.float x).toRatio? <;> cases x <;> rfl
  | _ => rfl

theorem field?_nil (name : String) : field? [] name = none := rfl

theorem field?_cons (entry : Value × Value) (rest : List (Value × Value)) (name : String) :
    field? (entry :: rest) name =
      if entry.1.isText name then some entry.2 else field? rest name := by
  rw [field?, List.find?_cons]
  cases entry.1.isText name <;> rfl

/-- What is written under a text is found there, and under other texts nothing has changed. -/
theorem field?_insertEntry (name : String) (value : Value) (entries : List (Value × Value))
    (other : String) :
    field? (insertEntry (.text name) value entries) other =
      if name = other then some value else field? entries other := by
  induction entries with
  | nil =>
    rw [insertEntry, field?_cons]
    simp [isText, field?_nil]
  | cons entry rest ih =>
    rw [insertEntry, sameKey_text]
    by_cases hkey : entry.1.isText name = true
    · rw [if_pos hkey, field?_cons, field?_cons, isText_iff.mp hkey]
      by_cases h : name = other
      · simp [isText, h]
      · simp [isText, h]
    · rw [if_neg hkey, field?_cons, field?_cons, ih]
      by_cases h : name = other
      · subst h
        rw [if_neg hkey, if_pos rfl, if_pos rfl]
      · rw [if_neg h, if_neg h]

/-- An entry under another key is in the map just if it was before. -/
theorem mem_insertEntry_iff {name : String} {value : Value} {entries : List (Value × Value)}
    {entry : Value × Value} (h : entry.1 ≠ .text name) :
    entry ∈ insertEntry (.text name) value entries ↔ entry ∈ entries := by
  induction entries with
  | nil =>
    have hne : entry ≠ (.text name, value) := fun heq => h (congrArg Prod.fst heq)
    simp [insertEntry, hne]
  | cons first rest ih =>
    rw [insertEntry, sameKey_text]
    split
    · rename_i hkey
      have hfirst : entry ≠ first := fun heq => h (heq ▸ isText_iff.mp hkey)
      have hnew : entry ≠ (first.1, value) := fun heq =>
        h ((congrArg Prod.fst heq).trans (isText_iff.mp hkey))
      simp [hfirst, hnew]
    · rw [List.mem_cons, List.mem_cons, ih]

/-- A written map holds what was written first under a name. -/
theorem field?_ofFields (fields : List (String × Value)) (name : String) :
    field? (fields.map fun field => (.text field.1, field.2)) name = fields.lookup name := by
  induction fields with
  | nil => rfl
  | cons field fields ih =>
    rw [List.map_cons, List.lookup_cons, field?_cons, ih]
    by_cases h : field.1 = name
    · simp [isText, h]
    · have hne : (name == field.1) = false := beq_eq_false_iff_ne.mpr (Ne.symm h)
      simp [isText, h, hne]

/-- Keys that are all different. -/
def DistinctKeys (entries : List (Value × Value)) : Prop :=
  entries.Pairwise fun entry other => other.1.sameKey entry.1 = false

/-- **Under different keys the order of the entries does not matter.** -/
theorem field?_eq_some_iff_mem {entries : List (Value × Value)} (h : DistinctKeys entries)
    {name : String} {value : Value} :
    field? entries name = some value ↔ (.text name, value) ∈ entries := by
  induction entries with
  | nil => exact iff_of_false nofun List.not_mem_nil
  | cons entry rest ih =>
    obtain ⟨hfirst, hrest⟩ := List.pairwise_cons.mp h
    rw [field?_cons, List.mem_cons]
    by_cases hkey : entry.1.isText name = true
    · have hother : (.text name, value) ∉ rest := fun hmem => by
        have hsame := hfirst _ hmem
        rw [isText_iff.mp hkey, sameKey_text] at hsame
        simp [isText] at hsame
      rw [if_pos hkey, Option.some_inj, or_iff_left hother, ← isText_iff.mp hkey]
      exact ⟨fun hvalue => hvalue ▸ rfl, fun heq => (congrArg Prod.snd heq).symm⟩
    · have hne : (Value.text name, value) ≠ entry := fun heq =>
        hkey (isText_iff.mpr (congrArg Prod.fst heq).symm)
      rw [if_neg hkey, ih hrest, or_iff_right hne]

end Value
end SchemaTypes

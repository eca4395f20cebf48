import SchemaTypes.Validation

/-!
# Checks side by side

When a check accepts and what it finds otherwise, for checks that are put together. Side by side
they accept if each of them does, and what they find is what the first finds and then what the
second finds (`issues_seq`); so a record is accepted if each of its fields is, and its issues are
those of its fields in their order. A field that has to be there is accepted if it is there and its
value is; one with a default value also if it is not there.
-/

namespace SchemaTypes

/-! ## Outcomes -/

namespace Checked

variable {α β : Type}

theorem map_eq_valid_iff {f : α → β} {checked : Checked α} {b : β} :
    f <$> checked = .valid b ↔ ∃ a, checked = .valid a ∧ f a = b := by
  cases checked with
  | valid a =>
    constructor
    · intro h
      exact ⟨a, rfl, Checked.valid.inj h⟩
    · rintro ⟨_, ⟨⟩, rfl⟩
      rfl
  | invalid issues => exact iff_of_false nofun nofun

theorem seq_eq_valid_iff {checked : Checked (α → β)} {argument : Checked α} {b : β} :
    checked <*> argument = .valid b ↔
      ∃ f a, checked = .valid f ∧ argument = .valid a ∧ f a = b := by
  cases checked with
  | valid f =>
    cases argument with
    | valid a =>
      constructor
      · intro h
        exact ⟨f, a, rfl, rfl, Checked.valid.inj h⟩
      · rintro ⟨_, _, ⟨⟩, ⟨⟩, rfl⟩
        rfl
    | invalid issues => exact iff_of_false nofun nofun
  | invalid issues =>
    cases argument with
    | valid a => exact iff_of_false nofun nofun
    | invalid others => exact iff_of_false nofun nofun

theorem under_eq_valid_iff {step : Step} {checked : Checked α} {a : α} :
    checked.under step = .valid a ↔ checked = .valid a := by
  cases checked with
  | valid _ => exact Iff.rfl
  | invalid _ => exact iff_of_false nofun nofun

theorem issues_map (f : α → β) (checked : Checked α) :
    (f <$> checked).issues = checked.issues := by
  cases checked <;> rfl

/-- A check accepts something. -/
def Accepts (checked : Checked α) : Prop :=
  ∃ a, checked = .valid a

theorem accepts_pure (a : α) : (pure a : Checked α).Accepts :=
  ⟨a, rfl⟩

theorem accepts_map_iff {f : α → β} {checked : Checked α} :
    (f <$> checked).Accepts ↔ checked.Accepts := by
  constructor
  · rintro ⟨_, h⟩
    obtain ⟨a, ha, -⟩ := map_eq_valid_iff.mp h
    exact ⟨a, ha⟩
  · rintro ⟨a, ha⟩
    exact ⟨f a, map_eq_valid_iff.mpr ⟨a, ha, rfl⟩⟩

/-- Two checks side by side accept if both of them do. -/
theorem accepts_seq_iff {checked : Checked (α → β)} {argument : Checked α} :
    (checked <*> argument).Accepts ↔ checked.Accepts ∧ argument.Accepts := by
  constructor
  · rintro ⟨_, h⟩
    obtain ⟨f, a, hf, ha, -⟩ := seq_eq_valid_iff.mp h
    exact ⟨⟨f, hf⟩, a, ha⟩
  · rintro ⟨⟨f, hf⟩, a, ha⟩
    exact ⟨f a, seq_eq_valid_iff.mpr ⟨f, a, hf, ha, rfl⟩⟩

theorem accepts_under_iff {step : Step} {checked : Checked α} :
    (checked.under step).Accepts ↔ checked.Accepts := by
  simp only [Accepts, under_eq_valid_iff]

/-- **The issues of two checks side by side** are those of the first and then those of the
second. -/
theorem issues_seq (checked : Checked (α → β)) (argument : Checked α) :
    (checked <*> argument).issues = checked.issues ++ argument.issues := by
  cases checked with
  | valid f => cases argument <;> rfl
  | invalid issues =>
    cases argument with
    | valid a => exact (List.append_nil issues).symm
    | invalid others => rfl

end Checked

/-! ## Fields -/

namespace Check

variable {α : Type} {entries : List (Value × Value)} {name : String} {check : Value → Checked α}
  {default a : α}

theorem required_eq_valid_iff :
    required entries name check = .valid a ↔
      ∃ value, Value.field? entries name = some value ∧ check value = .valid a := by
  rw [required]
  cases Value.field? entries name with
  | none => exact iff_of_false nofun nofun
  | some value =>
    rw [Checked.under_eq_valid_iff]
    exact ⟨fun h => ⟨value, rfl, h⟩, fun ⟨_, hvalue, h⟩ => Option.some.inj hvalue ▸ h⟩

theorem withDefault_eq_valid_iff :
    withDefault entries name default check = .valid a ↔
      (Value.field? entries name = none ∧ a = default) ∨
        ∃ value, Value.field? entries name = some value ∧ check value = .valid a := by
  rw [withDefault]
  cases Value.field? entries name with
  | none =>
    constructor
    · intro h
      exact .inl ⟨rfl, (Checked.valid.inj h).symm⟩
    · rintro (⟨-, rfl⟩ | ⟨_, ⟨⟩, -⟩)
      rfl
  | some value =>
    rw [Checked.under_eq_valid_iff]
    constructor
    · intro h
      exact .inr ⟨value, rfl, h⟩
    · rintro (⟨⟨⟩, -⟩ | ⟨_, ⟨⟩, h⟩)
      exact h

end Check

end SchemaTypes

/-!
# Steps that may fail

When a sequence of steps succeeds, and when it fails. The results of this library are mostly
`Except` values, made from others by doing one step behind another one and by putting the error of
a step into that of the whole. That such a value is a success comes down to the success of each
step, that it is a failure to the first step that fails, and these equivalences do that by
rewriting.
-/

namespace SchemaTypes

variable {ε ε' α β : Type}

/-- Two steps succeed if the first does, and the second with what it gave. -/
theorem bind_eq_ok_iff {first : Except ε α} {next : α → Except ε β} {b : β} :
    first >>= next = .ok b ↔ ∃ a, first = .ok a ∧ next a = .ok b := by
  cases first with
  | error error => exact iff_of_false nofun nofun
  | ok a =>
    constructor
    · intro h
      exact ⟨a, rfl, h⟩
    · rintro ⟨_, ⟨⟩, h⟩
      exact h

/-- Two steps fail if the first does, or the second with what it gave. -/
theorem bind_eq_error_iff {first : Except ε α} {next : α → Except ε β} {error : ε} :
    first >>= next = .error error ↔
      first = .error error ∨ ∃ a, first = .ok a ∧ next a = .error error := by
  cases first with
  | error _ =>
    constructor
    · intro h
      exact .inl (congrArg _ (Except.error.inj h))
    · rintro (h | ⟨_, h, _⟩)
      · exact congrArg _ (Except.error.inj h)
      · cases h
  | ok a =>
    constructor
    · intro h
      exact .inr ⟨a, rfl, h⟩
    · rintro (h | ⟨_, ⟨⟩, h⟩)
      · cases h
      · exact h

/-- Giving the error another form changes nothing about success. -/
theorem mapError_eq_ok_iff {f : ε → ε'} {step : Except ε α} {a : α} :
    step.mapError f = .ok a ↔ step = .ok a := by
  cases step with
  | error error => exact iff_of_false nofun nofun
  | ok _ => exact ⟨fun h => congrArg _ (Except.ok.inj h), fun h => congrArg _ (Except.ok.inj h)⟩

/-- Giving the error another form gives the other form of the error. -/
theorem mapError_eq_error_iff {f : ε → ε'} {step : Except ε α} {error : ε'} :
    step.mapError f = .error error ↔ ∃ own, step = .error own ∧ f own = error := by
  cases step with
  | error own =>
    constructor
    · intro h
      exact ⟨own, rfl, Except.error.inj h⟩
    · rintro ⟨_, ⟨⟩, rfl⟩
      rfl
  | ok a => exact iff_of_false nofun nofun

end SchemaTypes

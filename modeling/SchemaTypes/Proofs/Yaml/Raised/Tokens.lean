import SchemaTypes.Proofs.Fallible
import SchemaTypes.Proofs.Yaml.Raised.Characters
import SchemaTypes.Yaml.Token.Stream

/-!
# What reading tokens may raise

Tokens are made from characters, and nothing is raised on the way that the characters do not raise,
except that the text is malformed. So where tokens end with a fault, it is the fault of the source
or one of a document itself (`raised_of_tokens`).
-/

namespace SchemaTypes
namespace Yaml

open Std.Do

set_option mvcgen.warning false

variable {outer : Option Fault}

namespace TokenStream

/-- The reading is at a place behind which the given fault stands, or nothing. -/
def State.EndsIn (outer : Option Fault) (state : State) : Prop :=
  state.cursor.EndsIn outer

/-- Characters are read as they are without tokens. -/
@[spec]
theorem confined_scan {α : Type} {reading : Scan α}
    (h : Confined outer (Cursor.EndsIn outer) reading) :
    Confined outer (State.EndsIn outer) (scan reading) := by
  refine confined_iff.mpr fun state hstate => ?_
  have hreading := confined_iff.mp h state.cursor hstate
  have hrun : (scan reading).run state = reading.run state.cursor >>= fun result =>
      pure (result.1, { state with cursor := result.2 }) := by
    rw [scan]
    simp
  rw [hrun]
  cases hresult : reading.run state.cursor with
  | error fault =>
    rw [hresult] at hreading
    exact hreading
  | ok result =>
    rw [hresult] at hreading
    exact hreading

@[spec]
theorem confined_malformed {α : Type} :
    Confined outer (State.EndsIn outer) (malformed : Reader α) := by
  mvcgen [malformed]
  exact .malformed

@[spec]
theorem confined_emit (token : Token) : Confined outer (State.EndsIn outer) (emit token) := by
  mvcgen [emit]

@[spec]
theorem confined_emitSign (token : Token) (length : Nat) :
    Confined outer (State.EndsIn outer) (emitSign token length) := by
  mvcgen [emitSign]

@[spec]
theorem confined_allowKey (allowed : Bool) :
    Confined outer (State.EndsIn outer) (allowKey allowed) := by
  mvcgen [allowKey]

@[spec]
theorem confined_removeKey : Confined outer (State.EndsIn outer) removeKey := by
  mvcgen [removeKey]

@[spec]
theorem confined_saveKey : Confined outer (State.EndsIn outer) saveKey := by
  mvcgen [saveKey]

@[spec]
theorem confined_closeLevels (column : Nat) :
    Confined outer (State.EndsIn outer) (closeLevels column) := by
  refine confined_modify fun state hstate => ?_
  split <;> exact hstate

@[spec]
theorem confined_closeAllLevels : Confined outer (State.EndsIn outer) closeAllLevels := by
  refine confined_modify fun state hstate => ?_
  split <;> exact hstate

@[spec]
theorem confined_openLevel (column place : Nat) (token : Token) :
    Confined outer (State.EndsIn outer) (openLevel column place token) := by
  refine confined_modify fun state hstate => ?_
  split <;> exact hstate

@[spec]
theorem confined_skipToToken (steps : Nat) :
    Confined outer (State.EndsIn outer) (skipToToken steps) := by
  induction steps with
  | zero => mvcgen [skipToToken]
  | succ steps ih => mvcgen [skipToToken, ih]

@[spec]
theorem confined_endDocument : Confined outer (State.EndsIn outer) endDocument := by
  mvcgen [endDocument]

@[spec]
theorem confined_openFlow (token : Token) :
    Confined outer (State.EndsIn outer) (openFlow token) := by
  mvcgen [openFlow]

@[spec]
theorem confined_closeFlow (token : Token) :
    Confined outer (State.EndsIn outer) (closeFlow token) := by
  mvcgen [closeFlow]

@[spec]
theorem confined_openAtSign (token : Token) :
    Confined outer (State.EndsIn outer) (openAtSign token) := by
  mvcgen [openAtSign]

@[spec]
theorem confined_blockEntry : Confined outer (State.EndsIn outer) blockEntry := by
  mvcgen [blockEntry]

@[spec]
theorem confined_explicitKey : Confined outer (State.EndsIn outer) explicitKey := by
  mvcgen [explicitKey]

@[spec]
theorem confined_value : Confined outer (State.EndsIn outer) value := by
  mvcgen [value]

@[spec]
theorem confined_flowEntry : Confined outer (State.EndsIn outer) flowEntry := by
  mvcgen [flowEntry]

@[spec]
theorem confined_content {reading : Scan Token}
    (h : Confined outer (Cursor.EndsIn outer) reading) :
    Confined outer (State.EndsIn outer) (content reading) := by
  mvcgen [content]

@[spec]
theorem confined_directiveLine : Confined outer (State.EndsIn outer) directiveLine := by
  mvcgen [directiveLine]

@[spec]
theorem confined_blockScalar (folded : Bool) :
    Confined outer (State.EndsIn outer) (blockScalar folded) := by
  mvcgen [blockScalar]

@[spec]
theorem confined_plainScalar : Confined outer (State.EndsIn outer) plainScalar := by
  mvcgen [plainScalar]

@[spec]
theorem confined_mark (token : Token) : Confined outer (State.EndsIn outer) (mark token) := by
  mvcgen [mark]

@[spec]
theorem confined_atLineMark : Confined outer (State.EndsIn outer) atLineMark := by
  mvcgen [atLineMark]

@[spec]
theorem confined_standsAlone : Confined outer (State.EndsIn outer) standsAlone := by
  mvcgen [standsAlone]

@[spec]
theorem confined_hyphen : Confined outer (State.EndsIn outer) hyphen := by
  mvcgen [hyphen]

@[spec]
theorem confined_signOrScalar {sign : Reader Unit}
    (h : Confined outer (State.EndsIn outer) sign) :
    Confined outer (State.EndsIn outer) (signOrScalar sign) := by
  mvcgen [signOrScalar, h]

@[spec]
theorem confined_token (c : Char) : Confined outer (State.EndsIn outer) (token c) := by
  mvcgen [token]

/-! ## Possible keys -/

theorem malformed_of_keep? {cursor : Cursor} {key : Option PossibleKey} {fault : Fault}
    (h : PossibleKey.keep? cursor key = .error fault) : fault = .malformed := by
  unfold PossibleKey.keep? at h
  grind

theorem malformed_of_mapM_keep? {cursor : Cursor} {keys : List (Option PossibleKey)} {fault : Fault}
    (h : keys.mapM (PossibleKey.keep? cursor) = .error fault) : fault = .malformed := by
  induction keys with
  | nil => cases h
  | cons key keys ih =>
    rw [List.mapM_cons] at h
    rcases bind_eq_error_iff.mp h with h | ⟨_, _, h⟩
    · exact malformed_of_keep? h
    · rcases bind_eq_error_iff.mp h with h | ⟨_, _, h⟩
      · exact ih h
      · cases h

theorem State.malformed_of_dropStaleKeys {state : State} {fault : Fault}
    (h : state.dropStaleKeys = .error fault) : fault = .malformed := by
  rcases bind_eq_error_iff.mp h with h | ⟨_, _, h⟩
  · exact malformed_of_keep? h
  · rcases bind_eq_error_iff.mp h with h | ⟨_, _, h⟩
    · exact malformed_of_mapM_keep? h
    · cases h

theorem State.EndsIn.dropStaleKeys {state kept : State} (hstate : state.EndsIn outer)
    (h : state.dropStaleKeys = .ok kept) : kept.EndsIn outer := by
  obtain ⟨_, _, h⟩ := bind_eq_ok_iff.mp h
  obtain ⟨_, _, h⟩ := bind_eq_ok_iff.mp h
  cases h
  exact hstate

@[spec]
theorem confined_dropStaleKeys : Confined outer (State.EndsIn outer) dropStaleKeys := by
  refine confined_iff.mpr fun state hstate => ?_
  have hrun : dropStaleKeys.run state = state.dropStaleKeys.map fun kept => ((), kept) := by
    rw [dropStaleKeys]
    simp
    rfl
  rw [hrun]
  cases hkept : state.dropStaleKeys with
  | error fault =>
    rw [State.malformed_of_dropStaleKeys hkept]
    exact .malformed
  | ok kept => exact hstate.dropStaleKeys hkept

/-! ## All tokens -/

@[spec]
theorem confined_advance : Confined outer (State.EndsIn outer) advance := by
  mvcgen [advance]

/-- The tokens behind a place end with nothing else than what reading raises. -/
theorem raised_of_run {steps : Nat} {state : State} {fault : Fault} (hstate : state.EndsIn outer)
    (h : (run steps state).fault = some fault) : Raised outer fault := by
  induction steps generalizing state with
  | zero => cases h
  | succ steps ih =>
    rw [run] at h
    cases hkept : state.dropStaleKeys with
    | error _ =>
      rw [hkept] at h
      cases h
      rw [State.malformed_of_dropStaleKeys hkept]
      exact .malformed
    | ok kept =>
      have hkeeps := hstate.dropStaleKeys hkept
      have hadvance := confined_iff.mp confined_advance kept hkeeps
      rw [hkept] at h
      dsimp only at h
      generalize advance.run kept = advanced at h hadvance
      match advanced with
      | .error _ =>
        cases h
        exact hadvance
      | .ok (false, last) => cases h
      | .ok (true, next) =>
        have hnext : State.EndsIn outer { next with ready := kept.readyCount } := hadvance
        exact ih hnext h

/-- Skipping a byte order mark is a confined step. -/
theorem skipByteOrderMark_eq (state : State) : ∃ step : Reader Unit,
    Confined outer (State.EndsIn outer) step ∧
      skipByteOrderMark state = (step.run state).map (·.2) := by
  refine ⟨do
    scan (Scan.demand 0)
    if ← scan (Scan.sees '\ufeff') then scan Scan.next, ?_, ?_⟩
  · mvcgen
  · rfl

end TokenStream

/-- **Tokens end with the fault of their source or with one of a document itself.** -/
theorem raised_of_tokens {source : Source} {fault : Fault}
    (h : (tokens source).fault = some fault) : Raised source.fault fault := by
  have hstart : (TokenStream.State.start source).EndsIn source.fault := rfl
  obtain ⟨step, hstep, heq⟩ := TokenStream.skipByteOrderMark_eq (.start source)
  have hrun := confined_iff.mp hstep _ hstart
  rw [tokens, heq] at h
  generalize step.run (.start source) = skipped at h hrun
  match skipped with
  | .error _ =>
    cases h
    exact hrun
  | .ok (_, state) => exact TokenStream.raised_of_run hrun h

end Yaml
end SchemaTypes

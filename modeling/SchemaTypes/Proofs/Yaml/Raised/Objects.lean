import SchemaTypes.Proofs.Yaml.Raised.Grammar
import SchemaTypes.Yaml.Object

/-!
# What reading a document may raise

The nodes of a graph become objects when all of the text has been read. Merging and making objects
raise that the document is malformed, that a default value has no end, or that a scalar has no value
of its kind. With that every fault of a document is accounted for (`raised_of_read`).
-/

namespace SchemaTypes
namespace Yaml

open Std.Do

set_option mvcgen.warning false

variable {outer : Option Fault}

/-- A result that fails with nothing else than what reading raises. -/
theorem triple_of_raised {α : Type} {result : Except Fault α}
    (h : ∀ fault, result = .error fault → Raised outer fault) :
    ⦃⌜True⌝⦄ result ⦃post⟨fun _ => ⌜True⌝, fun fault => ⌜Raised outer fault⌝⟩⦄ := by
  cases result with
  | error fault => exact fun _ => h fault rfl
  | ok a => exact fun _ => True.intro

/-- Confined steps, one for each item of a list. -/
theorem confined_mapM {σ α β : Type} {inv : σ → Prop} {step : α → StateT σ (Except Fault) β}
    (as : List α) (h : ∀ a, Confined outer inv (step a)) : Confined outer inv (as.mapM step) := by
  induction as with
  | nil => exact confined_iff.mpr fun _ hstate => hstate
  | cons a as ih =>
    rw [List.mapM_cons]
    refine .bind (h a) fun _ => .bind ih fun _ => ?_
    exact confined_iff.mpr fun _ hstate => hstate

/-! ## Merging -/

namespace Graph

@[spec]
theorem confined_malformed {α : Type} :
    Confined outer (fun _ => True) (malformed : Change α) := by
  mvcgen [malformed]
  exact .malformed

@[spec]
theorem confined_listOf (ref : NodeRef) : Confined outer (fun _ => True) (listOf ref) := by
  mvcgen [listOf]

@[spec]
theorem confined_nameDefaults (entries : Entries) :
    Confined outer (fun _ => True) (nameDefaults entries) := by
  mvcgen [nameDefaults]

@[spec]
theorem confined_putInFront (merged : Entries) (ref : NodeRef) :
    Confined outer (fun _ => True) (putInFront merged ref) := by
  mvcgen [putInFront]

@[spec]
theorem confined_mergeFrom (steps : Nat) (ref : NodeRef) (place : Nat) (merged : Entries) :
    Confined outer (fun _ => True) (mergeFrom steps ref place merged) := by
  induction steps generalizing ref place merged with
  | zero => mvcgen [mergeFrom]
  | succ steps ih => mvcgen [mergeFrom, ih, confined_mapM]

@[spec]
theorem confined_merge (ref : NodeRef) : Confined outer (fun _ => True) (merge ref) := by
  mvcgen [merge]

/-- Merging in a graph of its own. -/
@[spec]
theorem triple_merge (ref : NodeRef) (graph : Graph) :
    ⦃⌜True⌝⦄ merge ref graph ⦃post⟨fun _ => ⌜True⌝, fun fault => ⌜Raised outer fault⌝⟩⦄ := by
  refine triple_of_raised fun fault h => ?_
  have hmerge : Confined outer (fun _ => True) (merge ref) := confined_merge ref
  have hrun := confined_iff.mp hmerge graph True.intro
  rw [StateT.run, h] at hrun
  exact hrun

end Graph

/-! ## Making objects -/

namespace Object

@[spec]
theorem confined_malformed {α : Type} :
    Confined outer (fun _ => True) (malformed : Builder α) := by
  mvcgen [malformed]
  exact .malformed

@[spec]
theorem confined_add (object : Object) : Confined outer (fun _ => True) (add object) := by
  mvcgen [add]

@[spec]
theorem confined_put (ref : ObjectRef) (object : Object) :
    Confined outer (fun _ => True) (put ref object) := by
  mvcgen [put]

theorem raised_of_scalarPoints {graph : Graph} {steps : Nat} {ref : NodeRef} {fault : Fault}
    (h : scalarPoints graph steps ref = .error fault) : Raised outer fault := by
  fun_induction scalarPoints graph steps ref with
  | case1 =>
    cases h
    exact .tooDeep
  | case2 => cases h
  | case3 =>
    cases h
    exact .malformed
  | case4 => rename_i ih; exact ih h
  | case5 =>
    cases h
    exact .malformed

@[spec]
theorem triple_scalarPoints (graph : Graph) (steps : Nat) (ref : NodeRef) :
    ⦃⌜True⌝⦄ scalarPoints graph steps ref
    ⦃post⟨fun _ => ⌜True⌝, fun fault => ⌜Raised outer fault⌝⟩⦄ :=
  triple_of_raised fun _ h => raised_of_scalarPoints h

@[spec]
theorem triple_scalarValue (tag : Tag) (points : List Nat) :
    ⦃⌜True⌝⦄ scalarValue tag points
    ⦃post⟨fun _ => ⌜True⌝, fun fault => ⌜Raised outer fault⌝⟩⦄ :=
  triple_of_raised fun _ h => .value h

@[spec]
theorem confined_makeScalar (ref : NodeRef) (tag : Tag) :
    Confined outer (fun _ => True) (makeScalar ref tag) := by
  mvcgen [makeScalar]
  all_goals exact .collectionAsDate

@[spec]
theorem confined_make (ref : NodeRef) : Confined outer (fun _ => True) (make ref) := by
  mvcgen [make]

@[spec]
theorem confined_makeKey (ref : NodeRef) : Confined outer (fun _ => True) (makeKey ref) := by
  mvcgen [makeKey]

@[spec]
theorem confined_entries (ref : NodeRef) : Confined outer (fun _ => True) (entries ref) := by
  mvcgen [entries, confined_mapM]

@[spec]
theorem confined_items (ref : NodeRef) : Confined outer (fun _ => True) (items ref) := by
  mvcgen [items]

@[spec]
theorem confined_pair (ref : NodeRef) : Confined outer (fun _ => True) (pair ref) := by
  mvcgen [pair]

@[spec]
theorem confined_content (ref : NodeRef) (tag : Tag) :
    Confined outer (fun _ => True) (content ref tag) := by
  mvcgen [content, confined_mapM]

@[spec]
theorem confined_fill (steps : Nat) : Confined outer (fun _ => True) (fill steps) := by
  induction steps with
  | zero => mvcgen [fill]
  | succ steps ih => mvcgen [fill, ih]

end Object

theorem raised_of_value {graph : Graph} {root : NodeRef} {fault : Fault}
    (h : graph.value root = .error fault) : Raised outer fault := by
  have hbuilding : Confined outer (fun _ => True) (do
      let root ← Object.make root
      Object.fill (graph.nodes.size + 1)
      return root : Object.Builder ObjectRef) := by
    mvcgen
  rcases bind_eq_error_iff.mp h with h | ⟨_, _, h⟩
  · have hrun := confined_iff.mp hbuilding
      ⟨graph, #[], Array.replicate graph.nodes.size none, [], none⟩ True.intro
    rw [h] at hrun
    exact hrun
  · cases h

/-! ## Documents -/

/-- **A document ends with the fault of its source, or with one of the few that are its own.** -/
theorem raised_of_read {source : Source} {fault : Fault} (h : read source = .error fault) :
    Raised source.fault fault := by
  rcases bind_eq_error_iff.mp h with h | ⟨found, _, h⟩
  · exact raised_of_ofTokens? (fun _ => raised_of_tokens) h
  · match found with
    | none => cases h
    | some (root, graph) => exact raised_of_value h

/-- A scalar has no value because the document is malformed, or because of the scalar itself. -/
theorem malformed_or_scalar_of_scalarValue {tag : Tag} {points : List Nat} {fault : Fault}
    (h : scalarValue tag points = .error fault) :
    fault = .malformed ∨ ∃ own, fault = .scalar own := by
  have hown : ∀ {α : Type} {f : α → Value} {result : Except ScalarFault α},
      (result.map f).mapError Fault.scalar = .error fault → ∃ own, fault = .scalar own := by
    intro α f result h
    cases result with
    | error own =>
      cases h
      exact ⟨own, rfl⟩
    | ok a => cases h
  cases tag with
  | truth => exact .inr (hown h)
  | integer => exact .inr (hown h)
  | float => exact .inr (hown h)
  | date => exact .inr (hown h)
  | bytes =>
    refine .inl ?_
    rw [scalarValue, bytesValue] at h
    split at h
    · cases h
      rfl
    · split at h <;> cases h
      rfl
  | text => cases h
  | null => cases h
  | _ =>
    cases h
    exact .inl rfl

end Yaml
end SchemaTypes

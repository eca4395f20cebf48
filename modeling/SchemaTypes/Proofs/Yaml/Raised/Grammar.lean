import SchemaTypes.Proofs.Yaml.Raised.Tokens
import SchemaTypes.Yaml.Graph.Grammar

/-!
# What reading nodes may raise

The descent through the grammar wants tokens that may not be there, and raises what stands in their
place. Of itself it raises that the text is malformed, or that collections stand inside each other
too deep. Its functions call each other, each with one step less, so what they raise is said of all
of them at once, by induction on the steps (`Descends`).
-/

namespace SchemaTypes
namespace Yaml

open Std.Do

set_option mvcgen.warning false

variable {outer : Option Fault}

namespace Grammar

/-- The tokens of a state end with what reading raises. -/
def State.EndsIn (outer : Option Fault) (state : State) : Prop :=
  ∀ fault, state.tokens.fault = some fault → Raised outer fault

@[spec]
theorem confined_malformed {α : Type} :
    Confined outer (State.EndsIn outer) (malformed : Reader α) := by
  mvcgen [malformed]
  exact .malformed

@[spec]
theorem confined_peek : Confined outer (State.EndsIn outer) peek := by
  mvcgen [peek]
  rename_i hstate _ fault hfault _
  exact hstate fault hfault

@[spec]
theorem confined_advance : Confined outer (State.EndsIn outer) advance := by
  mvcgen [advance]

@[spec]
theorem confined_sees (tokens : List Token) :
    Confined outer (State.EndsIn outer) (sees tokens) := by
  mvcgen [sees]

@[spec]
theorem confined_accept (token : Token) : Confined outer (State.EndsIn outer) (accept token) := by
  mvcgen [accept]

@[spec]
theorem confined_expect (token : Token) : Confined outer (State.EndsIn outer) (expect token) := by
  mvcgen [expect]

/-! ## Building the graph -/

@[spec]
theorem confined_add (node : Node) : Confined outer (State.EndsIn outer) (add node) := by
  mvcgen [add]

@[spec]
theorem confined_absent : Confined outer (State.EndsIn outer) absent := by
  mvcgen [absent]

@[spec]
theorem confined_register (anchor : Option String) (ref : NodeRef) :
    Confined outer (State.EndsIn outer) (register anchor ref) := by
  mvcgen [register]

@[spec]
theorem confined_addNamed (anchor : Option String) (node : Node) :
    Confined outer (State.EndsIn outer) (addNamed anchor node) := by
  mvcgen [addNamed]

@[spec]
theorem confined_inside {α : Type} {content : Reader α}
    (h : Confined outer (State.EndsIn outer) content) :
    Confined outer (State.EndsIn outer) (inside content) := by
  mvcgen [inside, h]
  all_goals exact .tooDeep

@[spec]
theorem confined_sequence {items : Reader (List NodeRef)} (anchor : Option String) (tag : Tag)
    (h : Confined outer (State.EndsIn outer) items) :
    Confined outer (State.EndsIn outer) (sequence anchor tag items) := by
  mvcgen [sequence]

@[spec]
theorem confined_mapping {entries : Reader Entries} (anchor : Option String) (tag : Tag)
    (h : Confined outer (State.EndsIn outer) entries) :
    Confined outer (State.EndsIn outer) (mapping anchor tag entries) := by
  mvcgen [mapping]

/-! ## Properties of a node -/

@[spec]
theorem confined_anchor? : Confined outer (State.EndsIn outer) anchor? := by
  mvcgen [anchor?]

@[spec]
theorem confined_tag? : Confined outer (State.EndsIn outer) tag? := by
  mvcgen [tag?]

@[spec]
theorem confined_properties : Confined outer (State.EndsIn outer) properties := by
  mvcgen [properties]

@[spec]
theorem confined_fullTag? (properties : Properties) :
    Confined outer (State.EndsIn outer) properties.fullTag? := by
  mvcgen [Properties.fullTag?]

/-! ## The descent -/

/-- All functions of the grammar are confined if they may use so many steps. -/
structure Descends (outer : Option Fault) (steps : Nat) : Prop where
  node (block indentless : Bool) :
    Confined outer (State.EndsIn outer) (node steps block indentless)
  content (block indentless : Bool) (anchor written : Option String) :
    Confined outer (State.EndsIn outer) (content steps block indentless anchor written)
  nodeUnless (ends : List Token) (block indentless : Bool) :
    Confined outer (State.EndsIn outer) (nodeUnless steps ends block indentless)
  valueUnless (ends : List Token) (block : Bool) :
    Confined outer (State.EndsIn outer) (valueUnless steps ends block)
  blockItems : Confined outer (State.EndsIn outer) (blockItems steps)
  indentlessItems : Confined outer (State.EndsIn outer) (indentlessItems steps)
  blockEntries : Confined outer (State.EndsIn outer) (blockEntries steps)
  flowItems (isFirst : Bool) : Confined outer (State.EndsIn outer) (flowItems steps isFirst)
  singleEntry : Confined outer (State.EndsIn outer) (singleEntry steps)
  flowEntries (isFirst : Bool) : Confined outer (State.EndsIn outer) (flowEntries steps isFirst)

theorem descends_zero : Descends outer 0 where
  node _ _ := by mvcgen [node]
  content _ _ _ _ := by mvcgen [content]
  nodeUnless _ _ _ := by mvcgen [nodeUnless]
  valueUnless _ _ := by mvcgen [valueUnless]
  blockItems := by mvcgen [blockItems]
  indentlessItems := by mvcgen [indentlessItems]
  blockEntries := by mvcgen [blockEntries]
  flowItems _ := by mvcgen [flowItems]
  singleEntry := by mvcgen [singleEntry]
  flowEntries _ := by mvcgen [flowEntries]

/-- One step more. Each function rests on the others with a step less, and on the small ones. -/
theorem descends_succ {steps : Nat} (h : Descends outer steps) : Descends outer (steps + 1) := by
  obtain ⟨hnode, hcontent, hnodeUnless, hvalueUnless, hblockItems, hindentlessItems, hblockEntries,
    hflowItems, hsingleEntry, hflowEntries⟩ := h
  exact {
    node := fun block indentless => by mvcgen [node, hcontent]
    content := fun block indentless anchor written => by
      mvcgen [content, hflowItems, hflowEntries, hblockItems, hblockEntries, hindentlessItems]
    nodeUnless := fun ends block indentless => by mvcgen [nodeUnless, hnode]
    valueUnless := fun ends block => by mvcgen [valueUnless, hnodeUnless]
    blockItems := by mvcgen [blockItems, hnodeUnless, hblockItems]
    indentlessItems := by mvcgen [indentlessItems, hnodeUnless, hindentlessItems]
    blockEntries := by mvcgen [blockEntries, hnodeUnless, hvalueUnless, hblockEntries]
    flowItems := fun isFirst => by mvcgen [flowItems, hsingleEntry, hnode, hflowItems]
    singleEntry := by mvcgen [singleEntry, hnodeUnless, hvalueUnless]
    flowEntries := fun isFirst => by
      mvcgen [flowEntries, hnodeUnless, hvalueUnless, hnode, hflowEntries] }

theorem descends (steps : Nat) : Descends outer steps := by
  induction steps with
  | zero => exact descends_zero
  | succ steps ih => exact descends_succ ih

@[spec]
theorem confined_node (steps : Nat) (block indentless : Bool) :
    Confined outer (State.EndsIn outer) (node steps block indentless) :=
  (descends steps).node block indentless

/-! ## Documents -/

@[spec]
theorem confined_directives (steps : Nat) (hasVersion : Bool) :
    Confined outer (State.EndsIn outer) (directives steps hasVersion) := by
  induction steps generalizing hasVersion with
  | zero => mvcgen [directives]
  | succ steps ih => mvcgen [directives, ih]

@[spec]
theorem confined_useHandles : Confined outer (State.EndsIn outer) useHandles := by
  mvcgen [useHandles]

@[spec]
theorem confined_documentStart (steps : Nat) :
    Confined outer (State.EndsIn outer) (documentStart steps) := by
  mvcgen [documentStart]

@[spec]
theorem confined_skipDocumentEnds (steps : Nat) :
    Confined outer (State.EndsIn outer) (skipDocumentEnds steps) := by
  induction steps with
  | zero => mvcgen [skipDocumentEnds]
  | succ steps ih => mvcgen [skipDocumentEnds, ih]

@[spec]
theorem confined_document (steps : Nat) :
    Confined outer (State.EndsIn outer) (document steps) := by
  mvcgen [document]

theorem confined_stream (steps : Nat) : Confined outer (State.EndsIn outer) (stream steps) := by
  mvcgen [stream]

end Grammar

/-- **Reading a graph raises what its tokens end with, or a fault of a document itself.** -/
theorem raised_of_ofTokens? {tokens : Tokens} {fault : Fault}
    (htokens : ∀ fault, tokens.fault = some fault → Raised outer fault)
    (h : Graph.ofTokens? tokens = .error fault) : Raised outer fault := by
  have hstream := confined_iff.mp (Grammar.confined_stream (4 * tokens.list.length + 4))
    ⟨tokens, .empty, [], [], 0⟩ htokens
  rcases bind_eq_error_iff.mp h with h | ⟨_, _, h⟩
  · rw [h] at hstream
    exact hstream
  · cases h

end Yaml
end SchemaTypes

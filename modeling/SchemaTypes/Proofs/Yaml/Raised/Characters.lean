import Mathlib.Tactic.Common
import SchemaTypes.Yaml.Property
import SchemaTypes.Yaml.Scalar
import SchemaTypes.Yaml.ScalarText.Block
import SchemaTypes.Yaml.ScalarText.Plain
import SchemaTypes.Yaml.ScalarText.Quoted

/-!
# What reading characters may raise

A document ends with a fault of its own or with that of its source, and there are not many of its
own: it is malformed, nested too deep, or some number, escape or scalar in it has no value
(`Raised`). All readings are made of a few steps, and each step keeps within these faults as long as
the place where it begins does (`Confined`). This module says so for the readings of characters, one
statement for each of them, and the statement about a reading rests on those about its parts.
-/

namespace SchemaTypes
namespace Yaml

open Std.Do

set_option mvcgen.warning false

/-- The faults with which reading a document may end, if `outer` stands behind its source. -/
inductive Raised (outer : Option Fault) : Fault → Prop
  | outer {fault : Fault} : outer = some fault → Raised outer fault
  | malformed : Raised outer .malformed
  | tooDeep : Raised outer .tooDeep
  /-- The number of a version has more digits than are read. -/
  | version {digits : Nat} : Numeral.maxDigits < digits →
    Raised outer (.scalar (.integerTooLong digits))
  /-- An escape names a code point beyond the last one. -/
  | escape {n : Nat} : 0x10FFFF < n → Raised outer (.scalar (.codePoint n))
  /-- A scalar has no value of the kind that it is of. -/
  | value {tag : Tag} {points : List Nat} {fault : Fault} :
    scalarValue tag points = .error fault → Raised outer fault
  | collectionAsDate : Raised outer (.scalar .collectionAsDate)

/-- A step that keeps what `inv` says, and that fails with no other faults than those that reading a
document may end with. -/
abbrev Confined {σ α : Type} (outer : Option Fault) (inv : σ → Prop)
    (step : StateT σ (Except Fault) α) : Prop :=
  ⦃fun state => ⌜inv state⌝⦄ step
  ⦃post⟨fun _ state => ⌜inv state⌝, fun fault => ⌜Raised outer fault⌝⟩⦄

variable {outer : Option Fault}

/-- What a confined step does, from every state of which `inv` holds. -/
theorem confined_iff {σ α : Type} {inv : σ → Prop} {step : StateT σ (Except Fault) α} :
    Confined outer inv step ↔ ∀ state, inv state →
      match step.run state with
      | .error fault => Raised outer fault
      | .ok (_, next) => inv next := by
  refine forall_congr' fun state => ?_
  change (⌜inv state⌝ ⊢ₛ wp⟦step.run state⟧
    (fun result => ⌜inv result.2⌝, fun fault => ⌜Raised outer fault⌝, PUnit.unit)) ↔ _
  cases step.run state with
  | error fault => exact Iff.rfl
  | ok result => exact Iff.rfl
/-- Two confined steps are confined. -/
theorem Confined.bind {σ α β : Type} {inv : σ → Prop} {first : StateT σ (Except Fault) α}
    {next : α → StateT σ (Except Fault) β} (hfirst : Confined outer inv first)
    (hnext : ∀ a, Confined outer inv (next a)) : Confined outer inv (first >>= next) :=
  Triple.bind first next hfirst hnext

/-- A change of the state is confined if it keeps what `inv` says. -/
theorem confined_modify {σ : Type} {inv : σ → Prop} {change : σ → σ}
    (h : ∀ state, inv state → inv (change state)) :
    Confined outer inv (modify change : StateT σ (Except Fault) Unit) :=
  confined_iff.mpr h

/-- Failing has to be allowed by what is said about faults. -/
@[spec high]
theorem triple_throw {σ α : Type} {fault : Fault} {Q : PostCond α (.arg σ (.except Fault .pure))} :
    ⦃fun _ => Q.2.1 fault⦄ (throw fault : StateT σ (Except Fault) α) ⦃Q⦄ :=
  fun _ h => h

/-! ## Places -/

/-- Behind the text of a cursor stands the given fault, or nothing. -/
def Cursor.EndsIn (outer : Option Fault) (cursor : Cursor) : Prop :=
  cursor.fault = outer

theorem Cursor.EndsIn.next {cursor : Cursor} (h : cursor.EndsIn outer) :
    cursor.next.EndsIn outer := by
  unfold EndsIn Cursor.next at *
  grind

namespace Scan

@[spec]
theorem confined_malformed {α : Type} :
    Confined outer (Cursor.EndsIn outer) (malformed : Scan α) := by
  mvcgen [malformed]
  exact .malformed

@[spec]
theorem confined_demand (n : Nat) : Confined outer (Cursor.EndsIn outer) (demand n) := by
  mvcgen [demand]
  rename_i hcursor fault hfault _
  exact .outer (hcursor.symm.trans hfault)

@[spec]
theorem confined_peek : Confined outer (Cursor.EndsIn outer) peek := by
  mvcgen [peek]

@[spec]
theorem confined_peekAt (n : Nat) : Confined outer (Cursor.EndsIn outer) (peekAt n) := by
  mvcgen [peekAt]

@[spec]
theorem confined_sees (c : Char) : Confined outer (Cursor.EndsIn outer) (sees c) := by
  mvcgen [sees]

@[spec]
theorem confined_next : Confined outer (Cursor.EndsIn outer) next := by
  mvcgen [next]
  rename_i hcursor _
  exact hcursor.next

@[spec]
theorem confined_skip (n : Nat) : Confined outer (Cursor.EndsIn outer) (skip n) := by
  induction n with
  | zero => mvcgen [skip]
  | succ n ih => mvcgen [skip, ih]

@[spec]
theorem confined_span (p : Char → Bool) : Confined outer (Cursor.EndsIn outer) (span p) := by
  mvcgen [span]

@[spec]
theorem confined_skipWhile (p : Char → Bool) :
    Confined outer (Cursor.EndsIn outer) (skipWhile p) := by
  mvcgen [skipWhile]

@[spec]
theorem confined_skipSpaces : Confined outer (Cursor.EndsIn outer) skipSpaces := by
  mvcgen [skipSpaces]

@[spec]
theorem confined_skipComment : Confined outer (Cursor.EndsIn outer) skipComment := by
  mvcgen [skipComment]

@[spec]
theorem confined_atBreak : Confined outer (Cursor.EndsIn outer) atBreak := by
  mvcgen [atBreak]

@[spec]
theorem confined_takeBreak : Confined outer (Cursor.EndsIn outer) takeBreak := by
  mvcgen [takeBreak]

@[spec]
theorem confined_atMark : Confined outer (Cursor.EndsIn outer) atMark := by
  mvcgen [atMark]

@[spec]
theorem confined_steps : Confined outer (Cursor.EndsIn outer) steps := by
  mvcgen [steps]

end Scan

/-! ## Names, tags and directives -/

@[spec]
theorem confined_closeWith (mayFollow : Option Char → Bool) :
    Confined outer (Cursor.EndsIn outer) (closeWith mayFollow) := by
  mvcgen [closeWith]

@[spec]
theorem confined_anchorName : Confined outer (Cursor.EndsIn outer) anchorName := by
  mvcgen [anchorName]

@[spec]
theorem confined_hexDigitAt (n : Nat) :
    Confined outer (Cursor.EndsIn outer) (hexDigitAt n) := by
  mvcgen [hexDigitAt]

@[spec]
theorem confined_escapedBytes (steps : Nat) :
    Confined outer (Cursor.EndsIn outer) (escapedBytes steps) := by
  induction steps with
  | zero => mvcgen [escapedBytes]
  | succ steps ih => mvcgen [escapedBytes, ih]

/-- Escaped bytes that are no text make the document malformed. -/
@[spec]
theorem confined_tagChars (steps : Nat) :
    Confined outer (Cursor.EndsIn outer) (tagChars steps) := by
  induction steps with
  | zero => mvcgen [tagChars]
  | succ steps ih => mvcgen [tagChars, ih]

@[spec]
theorem confined_tagText : Confined outer (Cursor.EndsIn outer) tagText := by
  mvcgen [tagText]

@[spec]
theorem confined_tagHandle : Confined outer (Cursor.EndsIn outer) tagHandle := by
  mvcgen [tagHandle]

@[spec]
theorem confined_hasHandle : Confined outer (Cursor.EndsIn outer) hasHandle := by
  mvcgen [hasHandle]

@[spec]
theorem confined_tag : Confined outer (Cursor.EndsIn outer) tag := by
  mvcgen [tag]

@[spec]
theorem confined_versionNumber : Confined outer (Cursor.EndsIn outer) versionNumber := by
  mvcgen [versionNumber]
  all_goals exact .version ‹Numeral.maxDigits < _›

@[spec]
theorem confined_version : Confined outer (Cursor.EndsIn outer) version := by
  mvcgen [version]

@[spec]
theorem confined_tagDirective : Confined outer (Cursor.EndsIn outer) tagDirective := by
  mvcgen [tagDirective]

@[spec]
theorem confined_directive : Confined outer (Cursor.EndsIn outer) directive := by
  have hrest (directive : Directive) : Confined outer (Cursor.EndsIn outer) (do
      Scan.skipSpaces
      Scan.skipComment
      closeWith endsLine
      let _ ← Scan.takeBreak
      return Token.directive directive) := by
    mvcgen
  unfold directive
  refine .bind Scan.confined_next fun _ => .bind (Scan.confined_span _) fun name => ?_
  generalize String.ofList name = keyword
  dsimp only
  split
  · mvcgen
  · refine .bind (confined_closeWith _) fun _ => ?_
    split
    · exact .bind confined_version hrest
    · exact .bind confined_tagDirective hrest
    · exact .bind (Scan.confined_skipWhile _) fun _ => hrest .other

/-! ## Plain scalars -/

namespace Plain

@[spec]
theorem confined_begins (inFlow : Bool) :
    Confined outer (Cursor.EndsIn outer) (begins inFlow) := by
  unfold begins
  refine .bind Scan.confined_peek fun found => ?_
  split
  · mvcgen
  · split
    · mvcgen
    · mvcgen

@[spec]
theorem confined_word (inFlow : Bool) : Confined outer (Cursor.EndsIn outer) (word inFlow) := by
  mvcgen [word]

@[spec]
theorem confined_breaks (steps : Nat) : Confined outer (Cursor.EndsIn outer) (breaks steps) := by
  induction steps with
  | zero => mvcgen [breaks]
  | succ steps ih => mvcgen [breaks, ih]

@[spec]
theorem confined_joint (steps : Nat) : Confined outer (Cursor.EndsIn outer) (joint steps) := by
  mvcgen [joint]

@[spec]
theorem confined_words (inFlow : Bool) (level : Nat) (before : Joint) (steps : Nat) :
    Confined outer (Cursor.EndsIn outer) (words inFlow level before steps) := by
  induction steps generalizing before with
  | zero => mvcgen [words]
  | succ steps ih => mvcgen [words, ih]

@[spec]
theorem confined_read (inFlow : Bool) (level : Nat) :
    Confined outer (Cursor.EndsIn outer) (read inFlow level) := by
  mvcgen [read]

end Plain

/-! ## Quoted scalars -/

namespace Quoted

@[spec]
theorem confined_hexNumber (before place length : Nat) :
    Confined outer (Cursor.EndsIn outer) (hexNumber before place length) := by
  induction length generalizing before place with
  | zero => mvcgen [hexNumber]
  | succ length ih => mvcgen [hexNumber, ih]

@[spec]
theorem confined_breaks (steps : Nat) : Confined outer (Cursor.EndsIn outer) (breaks steps) := by
  induction steps with
  | zero => mvcgen [breaks]
  | succ steps ih => mvcgen [breaks, ih]

@[spec]
theorem confined_whiteSpace (steps : Nat) :
    Confined outer (Cursor.EndsIn outer) (whiteSpace steps) := by
  mvcgen [whiteSpace]

@[spec]
theorem confined_escape (steps : Nat) : Confined outer (Cursor.EndsIn outer) (escape steps) := by
  mvcgen [escape]
  exact .escape ‹0x10FFFF < _›

@[spec]
theorem confined_body (quote : Char) (steps : Nat) :
    Confined outer (Cursor.EndsIn outer) (body quote steps) := by
  induction steps with
  | zero => mvcgen [body]
  | succ steps ih => mvcgen [body, ih]

@[spec]
theorem confined_read (quote : Char) : Confined outer (Cursor.EndsIn outer) (read quote) := by
  mvcgen [read]

end Quoted

/-! ## Block scalars -/

namespace Block

@[spec]
theorem confined_chomping? : Confined outer (Cursor.EndsIn outer) chomping? := by
  mvcgen [chomping?]

@[spec]
theorem confined_increment? : Confined outer (Cursor.EndsIn outer) increment? := by
  mvcgen [increment?]

@[spec]
theorem confined_signs : Confined outer (Cursor.EndsIn outer) signs := by
  mvcgen [signs]

@[spec]
theorem confined_header : Confined outer (Cursor.EndsIn outer) header := by
  mvcgen [header]

@[spec]
theorem confined_leadingBreaks (steps deepest : Nat) :
    Confined outer (Cursor.EndsIn outer) (leadingBreaks steps deepest) := by
  induction steps generalizing deepest with
  | zero => mvcgen [leadingBreaks]
  | succ steps ih => mvcgen [leadingBreaks, ih]

@[spec]
theorem confined_skipIndentation (indent : Nat) :
    Confined outer (Cursor.EndsIn outer) (skipIndentation indent) := by
  mvcgen [skipIndentation]

@[spec]
theorem confined_breaks (indent steps : Nat) :
    Confined outer (Cursor.EndsIn outer) (breaks indent steps) := by
  induction steps with
  | zero => mvcgen [breaks]
  | succ steps ih => mvcgen [breaks, ih]

@[spec]
theorem confined_atContent (indent : Nat) :
    Confined outer (Cursor.EndsIn outer) (atContent indent) := by
  mvcgen [atContent]

@[spec]
theorem confined_lines (folded : Bool) (chomping : Chomping) (indent steps : Nat) :
    Confined outer (Cursor.EndsIn outer) (lines folded chomping indent steps) := by
  induction steps with
  | zero => mvcgen [lines]
  | succ steps ih => mvcgen [lines, ih]

@[spec]
theorem confined_beginning (level : Nat) (header : Header) :
    Confined outer (Cursor.EndsIn outer) (beginning level header) := by
  mvcgen [beginning]

@[spec]
theorem confined_read (folded : Bool) (level : Nat) :
    Confined outer (Cursor.EndsIn outer) (read folded level) := by
  mvcgen [read]

end Block
end Yaml
end SchemaTypes

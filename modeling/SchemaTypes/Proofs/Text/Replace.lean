import Mathlib.Data.List.Basic

/-!
# Replacing parts of a text

A text is escaped by replacing some of its parts by others. `replaceAll` is the plain rule for one
such part: go through the text from left to right, put the new text wherever the old one stands, and
do not look at what was put in.

Several replacements in a row are another matter. A later one also goes over what the earlier ones
have put in, so the outcome depends on their order. If single characters are replaced, and no
replacement puts in a character that a later one would replace, then nothing is touched twice, and
the whole row comes to one walk that looks at each character by itself
(`replaceInTurn_eq_flatMap`).
-/

namespace SchemaTypes
namespace Text

/-- Replaces the text `old`, which is not empty, by `new` wherever it stands. -/
def replaceAll (old new : List Char) : List Char → List Char
  | [] => []
  | c :: cs =>
    if old.isPrefixOf (c :: cs) then new ++ replaceAll old new (cs.drop (old.length - 1))
    else c :: replaceAll old new cs
termination_by cs => cs.length
decreasing_by
  · rw [List.length_drop, List.length_cons]
    omega
  · exact Nat.lt_succ_self _

/-- Replaces single characters by texts, one after the other. -/
def replaceInTurn (turns : List (Char × List Char)) (cs : List Char) : List Char :=
  turns.foldl (fun cs turn => replaceAll [turn.1] turn.2 cs) cs

/-- A single character is replaced by itself, wherever it stands. -/
theorem replaceAll_singleton (c : Char) (new cs : List Char) :
    replaceAll [c] new cs = cs.flatMap fun d => if d = c then new else [d] := by
  induction cs with
  | nil => rw [replaceAll, List.flatMap_nil]
  | cons d cs ih =>
    rw [replaceAll, List.flatMap_cons]
    by_cases h : d = c
    · have hprefix : [c].isPrefixOf (d :: cs) = true := by simp [List.isPrefixOf, h]
      rw [if_pos hprefix, if_pos h]
      exact congrArg (new ++ ·) ih
    · have hprefix : ¬ [c].isPrefixOf (d :: cs) = true := by simpa [List.isPrefixOf] using Ne.symm h
      rw [if_neg hprefix, if_neg h, ih]
      rfl

/-- **Replacements that do not touch each other's texts** are one replacement of each character by
its own text. -/
theorem replaceInTurn_eq_flatMap {turns : List (Char × List Char)}
    (h : turns.Pairwise fun earlier later => later.1 ∉ earlier.2) (cs : List Char) :
    replaceInTurn turns cs = cs.flatMap fun c => (turns.lookup c).getD [c] := by
  induction turns generalizing cs with
  | nil => simp [replaceInTurn]
  | cons turn turns ih =>
    obtain ⟨hlater, hturns⟩ := List.pairwise_cons.mp h
    -- what this turn puts in is left alone by all that follow
    have hkept : (turn.2.flatMap fun c => (turns.lookup c).getD [c]) = turn.2 := by
      have hlookup : ∀ c ∈ turn.2, turns.lookup c = none := by
        intro c hc
        rw [List.lookup_eq_none_iff]
        intro later hmem
        have hne : c ≠ later.1 := fun heq => hlater later hmem (heq ▸ hc)
        simpa using hne
      calc
        (turn.2.flatMap fun c => (turns.lookup c).getD [c]) = turn.2.flatMap fun c => [c] :=
          List.flatMap_congr fun c hc => by rw [hlookup c hc, Option.getD_none]
        _ = turn.2 := List.flatMap_singleton' _
    have hstep : replaceInTurn (turn :: turns) cs
        = replaceInTurn turns (replaceAll [turn.1] turn.2 cs) := rfl
    rw [hstep, ih hturns, replaceAll_singleton, List.flatMap_assoc]
    refine List.flatMap_congr fun c _ => ?_
    by_cases hc : c = turn.1
    · rw [if_pos hc, hkept, List.lookup_cons, hc, beq_self_eq_true]
      rfl
    · rw [if_neg hc, List.flatMap_singleton, List.lookup_cons, beq_false_of_ne hc]

end Text
end SchemaTypes

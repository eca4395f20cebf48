import Mathlib.Data.List.Basic
import Mathlib.Data.List.Induction
import SchemaTypes.Proofs.Session.Lifecycle

/-!
# Lost connections

A connection is lost if it is open and no longer the current one, because then nothing closes it
any more. A session loses a connection in one way only: it connects while it is connected. A close
between the two would have counted the connection as closed before the next one took its place, and
this holds of a close that fails, too.

So the runs that lose nothing are those with a close between any two steps that open a connection
(`ClosesBetween`), and these are also the runs after which one more close leaves everything
closed. Whether a run has this shape depends on the steps alone; `EndsOpen` says likewise of the
steps whether there is a current connection at the end.
-/

namespace SchemaTypes
namespace Session

/-- No connection is lost: each is the current one or was closed. -/
def NoneLost (session : Session) : Prop :=
  ∀ (index : Nat) (connection : Connection), session.connections[index]? = some connection →
    session.current = some index ∨ 0 < connection.closes

/-- Every connection was closed. -/
def AllClosed (session : Session) : Prop :=
  ∀ (index : Nat) (connection : Connection), session.connections[index]? = some connection →
    0 < connection.closes

/-- Between any two steps that open a connection there is a close. -/
def ClosesBetween (steps : List Step) : Prop :=
  ∀ (before : List Step) (first : Step) (between : List Step) (second : Step) (rest : List Step),
    steps = before ++ first :: (between ++ second :: rest) → first.Opens → second.Opens →
      .close ∈ between

/-- There is a step that opens a connection and no close after it. -/
def EndsOpen (steps : List Step) : Prop :=
  ∃ (before : List Step) (first : Step) (between : List Step),
    steps = before ++ first :: between ∧ first.Opens ∧ .close ∉ between

/-! ## Lists of steps -/

section Steps

variable {steps : List Step} {step : Step}

theorem not_opens_close : ¬ Step.close.Opens := by
  rintro ⟨_, _, h⟩
  cases h

theorem not_endsOpen_nil : ¬ EndsOpen [] := by
  rintro ⟨before, first, between, h, -⟩
  cases before <;> cases h

/-- A step among some steps and one more is the last one, or among those before. -/
theorem concat_eq_iff {before : List Step} {found : Step} {rest : List Step} :
    steps ++ [step] = before ++ found :: rest
      ↔ steps = before ∧ step = found ∧ rest = [] ∨
        ∃ rest', rest = rest' ++ [step] ∧ steps = before ++ found :: rest' := by
  constructor
  · intro h
    rcases List.eq_nil_or_concat' rest with rfl | ⟨rest, last, rfl⟩
    · obtain ⟨hsteps, hstep⟩ := List.append_singleton_inj.mp h
      exact .inl ⟨hsteps, hstep, rfl⟩
    · rw [← List.cons_append, ← List.append_assoc, List.append_singleton_inj] at h
      obtain ⟨hsteps, rfl⟩ := h
      exact .inr ⟨rest, rfl, hsteps⟩
  · rintro (⟨rfl, rfl, rfl⟩ | ⟨rest, rfl, rfl⟩)
    · rfl
    · rw [List.append_assoc, List.cons_append]

/-- One more step ends open if it opens a connection, or if it does not close the one that is
open. -/
theorem endsOpen_concat :
    EndsOpen (steps ++ [step]) ↔ step.Opens ∨ EndsOpen steps ∧ step ≠ .close := by
  constructor
  · rintro ⟨before, first, between, h, hfirst, hbetween⟩
    rcases concat_eq_iff.mp h with ⟨-, rfl, -⟩ | ⟨between, rfl, hsteps⟩
    · exact .inl hfirst
    · rw [List.mem_append, not_or, List.mem_singleton] at hbetween
      exact .inr ⟨⟨before, first, between, hsteps, hfirst, hbetween.1⟩, Ne.symm hbetween.2⟩
  · rintro (hopens | ⟨⟨before, first, between, hsteps, hfirst, hbetween⟩, hclose⟩)
    · exact ⟨steps, step, [], rfl, hopens, List.not_mem_nil⟩
    · refine ⟨before, first, between ++ [step], ?_, hfirst, ?_⟩
      · exact concat_eq_iff.mpr (.inr ⟨between, rfl, hsteps⟩)
      · rw [List.mem_append, List.mem_singleton, not_or]
        exact ⟨hbetween, hclose.symm⟩

theorem closesBetween_nil : ClosesBetween [] := by
  intro before first between second rest h
  cases before <;> cases h

/-- One more step keeps the shape unless it opens a connection while there is one open. -/
theorem closesBetween_concat :
    ClosesBetween (steps ++ [step])
      ↔ ClosesBetween steps ∧ (step.Opens → ¬ EndsOpen steps) := by
  constructor
  · intro h
    refine ⟨fun before first between second rest hsteps => ?_, ?_⟩
    · refine h before first between second (rest ++ [step]) ?_
      rw [hsteps]
      simp only [List.append_assoc, List.cons_append]
    · rintro hopens ⟨before, first, between, rfl, hfirst, hbetween⟩
      refine hbetween (h before first between step [] ?_ hfirst hopens)
      rw [List.append_assoc, List.cons_append]
  · rintro ⟨h, hstep⟩ before first between second rest hsteps hfirst hsecond
    rw [← List.cons_append, ← List.append_assoc] at hsteps
    rcases concat_eq_iff.mp hsteps with ⟨heq, rfl, -⟩ | ⟨rest, -, heq⟩
    · -- The new step is the second of the two, so the first must not be open any more.
      by_contra hbetween
      exact hstep hsecond ⟨before, first, between, heq, hfirst, hbetween⟩
    · rw [List.append_assoc, List.cons_append] at heq
      exact h before first between second rest heq hfirst hsecond

end Steps

/-! ## Single steps -/

section Sessions

variable {session : Session}

/-- A connection that is opened puts the current one out of reach, so there must be none. -/
theorem noneLost_opened (h : session.Sound) (closingFailure : Option Failure) :
    (session.opened closingFailure).NoneLost ↔ session.NoneLost ∧ session.current = none := by
  constructor
  · intro hlost
    -- The connections of before are not the current one any more, so they were closed.
    have hclosed : session.AllClosed := by
      intro index connection hconnection
      have hindex : index < session.connections.length :=
        (List.getElem?_eq_some_iff.mp hconnection).1
      rcases hlost index connection (by
        rw [getElem?_opened, if_neg (by omega), hconnection]) with hcurrent | hcloses
      · exact absurd (Option.some.inj hcurrent) (by omega)
      · exact hcloses
    refine ⟨fun index connection hconnection => .inr (hclosed index connection hconnection), ?_⟩
    cases hcurrent : session.current with
    | none => rfl
    | some index =>
      obtain ⟨_, hconnection⟩ := h.current index hcurrent
      exact absurd (hclosed index _ hconnection) (Nat.lt_irrefl 0)
  · rintro ⟨hlost, hcurrent⟩ index connection hconnection
    rw [getElem?_opened] at hconnection
    split at hconnection
    · rename_i hindex
      exact .inl (congrArg some hindex.symm)
    · refine .inr ((hlost index connection hconnection).resolve_left ?_)
      rw [hcurrent]
      exact nofun

/-- A close leaves everything closed if nothing was lost before. -/
theorem allClosed_closed : session.closed.AllClosed ↔ session.NoneLost := by
  constructor
  · intro hclosed index connection hconnection
    by_cases hcurrent : session.current = some index
    · exact .inl hcurrent
    · refine .inr (hclosed index connection ?_)
      rw [getElem?_closed, if_neg hcurrent, hconnection]
  · intro hlost index connection hconnection
    rw [getElem?_closed] at hconnection
    split at hconnection
    · obtain ⟨connection, -, rfl⟩ := Option.map_eq_some_iff.mp hconnection
      exact Nat.succ_pos _
    · rename_i hcurrent
      exact (hlost index connection hconnection).resolve_left hcurrent

/-- A close loses nothing, and finds nothing that was lost. -/
theorem noneLost_closed : session.closed.NoneLost ↔ session.NoneLost := by
  refine Iff.trans ?_ allClosed_closed
  constructor
  · intro h index connection hconnection
    exact (h index connection hconnection).resolve_left nofun
  · intro h index connection hconnection
    exact .inr (h index connection hconnection)

/-- A step loses a connection if it opens one while another one is current. -/
theorem noneLost_step (h : session.Sound) (step : Step) :
    (session.step step).session.NoneLost
      ↔ session.NoneLost ∧ (step.Opens → session.current = none) := by
  have hmove := session.move_step step
  generalize (session.step step).session = next at hmove ⊢
  cases hmove with
  | opens settings closingFailure =>
    rw [noneLost_opened h]
    exact and_congr_right fun _ => ⟨fun hcurrent _ => hcurrent, fun hcurrent =>
      hcurrent ⟨settings, closingFailure, rfl⟩⟩
  | closes => rw [noneLost_closed, and_iff_left (fun hopens => absurd hopens not_opens_close)]
  | stays hopens => rw [and_iff_left (fun hopens' => absurd hopens' hopens)]

/-- A step leaves a current connection if it opens one, or if it does not close the one that was
there. -/
theorem current_step (step : Step) :
    (session.step step).session.current ≠ none
      ↔ step.Opens ∨ session.current ≠ none ∧ step ≠ .close := by
  have hmove := session.move_step step
  generalize (session.step step).session = next at hmove ⊢
  cases hmove with
  | opens settings closingFailure =>
    exact iff_of_true nofun (.inl ⟨settings, closingFailure, rfl⟩)
  | closes =>
    refine iff_of_false (fun h => h rfl) ?_
    rintro (hopens | ⟨-, hclose⟩)
    · exact not_opens_close hopens
    · exact hclose rfl
  | stays hopens hclose => rw [or_iff_right hopens, and_iff_left hclose]

end Sessions

/-! ## Runs -/

/-- There is a current connection just if the steps end open. -/
theorem current_after (steps : List Step) :
    (unconnected.after steps).current ≠ none ↔ EndsOpen steps := by
  induction steps using List.reverseRecOn with
  | nil => exact iff_of_false (fun h => h rfl) not_endsOpen_nil
  | append_singleton steps step ih =>
    rw [after_concat, current_step, endsOpen_concat, ih]

/-- Nothing is lost just if there is a close between any two steps that open a connection. -/
theorem noneLost_after (steps : List Step) :
    (unconnected.after steps).NoneLost ↔ ClosesBetween steps := by
  induction steps using List.reverseRecOn with
  | nil => exact iff_of_true (fun _ _ h => by cases h) closesBetween_nil
  | append_singleton steps step ih =>
    rw [after_concat, noneLost_step (sound_unconnected.after steps), closesBetween_concat, ih,
      ← current_after, not_not]

/-- **Only connecting twice loses a connection.** After any steps, all connections that were
opened are closed or current just if there is a close between any two of the connects that
succeeded; and just then a final close leaves no connection open. -/
theorem lost_iff_connects_twice (steps : List Step) :
    ((unconnected.after steps).NoneLost ↔ ClosesBetween steps) ∧
      ((unconnected.after (steps ++ [.close])).AllClosed ↔ ClosesBetween steps) := by
  refine ⟨noneLost_after steps, ?_⟩
  rw [after_concat, show ((unconnected.after steps).step .close).session
    = (unconnected.after steps).closed from session_close _, allClosed_closed]
  exact noneLost_after steps

/-- Two connects without a close between them. -/
def twoConnects (settings : Settings) : List Step :=
  [.connect settings (.ok none), .connect settings (.ok none)]

/-- The first of two connections is lost, and a final close does not reach it. -/
theorem first_of_twoConnects_lost :
    ¬ (unconnected.after (twoConnects ⟨"h", 5432, "u", "p", "d"⟩)).NoneLost ∧
      ¬ (unconnected.after (twoConnects ⟨"h", 5432, "u", "p", "d"⟩ ++ [.close])).AllClosed := by
  refine ⟨fun h => ?_, fun h => absurd (h 0 ⟨none, 0⟩ rfl) (Nat.lt_irrefl 0)⟩
  rcases h 0 ⟨none, 0⟩ rfl with hcurrent | hcloses
  · cases hcurrent
  · exact absurd hcloses (Nat.lt_irrefl 0)

end Session
end SchemaTypes

import SchemaTypes.Session

/-!
# The life of a connection

Three things can happen to the connections of a session in a step. A connect that succeeds adds a
connection, which becomes the current one. A close counts the current connection as closed once
more and leaves none current. Any other step, a connect that fails among them, changes nothing.
`Move` says this once, and nobody has to look at the reactions of the database again.

The invariant of all runs is `Sound`: the current connection is one that was opened and was never
closed, and no connection was closed twice.
-/

namespace SchemaTypes
namespace Session

/-- A step that opens a connection. -/
def Step.Opens (step : Step) : Prop :=
  ∃ settings closingFailure, step = .connect settings (.ok closingFailure)

/-- The session with one more connection, which is the current one. -/
def opened (session : Session) (closingFailure : Option Failure) : Session where
  connections := session.connections ++ [⟨closingFailure, 0⟩]
  current := some session.connections.length

/-- The session with its current connection closed. -/
def closed (session : Session) : Session where
  connections :=
    match session.current with
    | none => session.connections
    | some index => session.connections.modify index countClose
  current := none

/-- What a step can do to a session. -/
inductive Move (session : Session) : Step → Session → Prop
  | opens (settings : Settings) (closingFailure : Option Failure) :
    Move session (.connect settings (.ok closingFailure)) (session.opened closingFailure)
  | closes : Move session .close session.closed
  | stays {step : Step} : ¬ step.Opens → step ≠ .close → Move session step session

/-! ## Single steps -/

theorem session_close (session : Session) : session.close.session = session.closed := by
  obtain ⟨connections, current⟩ := session
  cases current <;> rfl

theorem session_execute (session : Session) (statement : Statement) (reply : Reply) :
    (session.execute statement reply).session = session := by
  obtain ⟨connections, current⟩ := session
  cases current <;> cases reply <;> rfl

theorem connect_error (session : Session) (settings : Settings) (failure : Failure) :
    session.connect settings (.error failure) = ⟨session, .error failure, [], [], [settings]⟩ :=
  rfl

theorem connect_ok (session : Session) (settings : Settings) (closingFailure : Option Failure) :
    session.connect settings (.ok closingFailure) =
      ⟨session.opened closingFailure, .ok none, [connectedReport settings], [], [settings]⟩ :=
  rfl

/-- The trivial statement reaches a connection that was just opened. -/
theorem ping_opened (session : Session) (closingFailure : Option Failure) (reaction : Reaction) :
    (session.opened closingFailure).ping reaction =
      ⟨session.opened closingFailure, reaction.rows.map fun _ => none, [],
        [⟨session.connections.length, pingStatement⟩], []⟩ := by
  cases reaction <;> rfl

/-- **What a step does** is one of three things. -/
theorem move_step (session : Session) (step : Step) :
    session.Move step (session.step step).session := by
  cases step with
  | connect settings reaction =>
    cases reaction with
    | ok closingFailure => exact .opens settings closingFailure
    | error failure =>
      refine .stays ?_ Step.noConfusion
      rintro ⟨_, _, h⟩
      cases h
  | execute statement reply =>
    rw [show (session.step (.execute statement reply)).session = session from
      session_execute session statement reply]
    exact .stays (fun ⟨_, _, h⟩ => Step.noConfusion h) Step.noConfusion
  | ping reply =>
    rw [show (session.step (.ping reply)).session = session from
      session_execute session pingStatement reply]
    exact .stays (fun ⟨_, _, h⟩ => Step.noConfusion h) Step.noConfusion
  | close =>
    rw [show (session.step .close).session = session.closed from session_close session]
    exact .closes

theorem after_concat (session : Session) (steps : List Step) (step : Step) :
    session.after (steps ++ [step]) = ((session.after steps).step step).session := by
  rw [after, List.foldl_append]
  rfl

/-! ## The connections of a session -/

variable {session : Session} {index : Nat}

theorem getElem?_opened (closingFailure : Option Failure) :
    (session.opened closingFailure).connections[index]? =
      if index = session.connections.length then some ⟨closingFailure, 0⟩
      else session.connections[index]? := by
  rw [opened, List.getElem?_append]
  split
  · rw [if_neg (by omega)]
  · by_cases hindex : index = session.connections.length
    · rw [if_pos hindex, hindex, Nat.sub_self]
      rfl
    · rw [if_neg hindex, List.getElem?_eq_none (by rw [List.length_singleton]; omega),
        List.getElem?_eq_none (by omega)]

theorem getElem?_closed :
    session.closed.connections[index]? =
      if session.current = some index then session.connections[index]?.map countClose
      else session.connections[index]? := by
  obtain ⟨connections, current⟩ := session
  cases current with
  | none => rfl
  | some i =>
    show (connections.modify i countClose)[index]? = _
    rw [List.getElem?_modify]
    by_cases hindex : i = index
    · rw [if_pos (congrArg some hindex), hindex]
      simp
    · rw [if_neg (fun h => hindex (Option.some.inj h))]
      simp [hindex]

/-! ## The invariant -/

/-- The current connection of a sound session was opened and not closed, and no connection was
closed twice. -/
structure Sound (session : Session) : Prop where
  current : ∀ index : Nat, session.current = some index →
    ∃ closingFailure, session.connections[index]? = some ⟨closingFailure, 0⟩
  once : ∀ (index : Nat) (connection : Connection),
    session.connections[index]? = some connection → connection.closes ≤ 1

theorem sound_unconnected : unconnected.Sound where
  current _ h := by cases h
  once _ _ h := by cases h

theorem Sound.opened (h : session.Sound) (closingFailure : Option Failure) :
    (session.opened closingFailure).Sound where
  current index hindex := by
    refine ⟨closingFailure, ?_⟩
    rw [getElem?_opened, if_pos (Option.some.inj hindex).symm]
  once index connection hconnection := by
    rw [getElem?_opened] at hconnection
    split at hconnection
    · rw [← Option.some.inj hconnection]
      exact Nat.zero_le 1
    · exact h.once index connection hconnection

theorem Sound.closed (h : session.Sound) : session.closed.Sound where
  current _ hindex := by cases hindex
  once index connection hconnection := by
    rw [getElem?_closed] at hconnection
    split at hconnection
    · -- The current connection was not closed before, so this was its first time.
      rename_i hindex
      obtain ⟨closingFailure, hcurrent⟩ := h.current index hindex
      rw [hcurrent] at hconnection
      rw [← Option.some.inj hconnection]
      exact Nat.le_refl 1
    · exact h.once index connection hconnection

/-- A step keeps a session sound. -/
theorem Sound.step (h : session.Sound) (step : Step) : (session.step step).session.Sound := by
  have hmove := session.move_step step
  generalize (session.step step).session = next at hmove
  cases hmove with
  | opens _ closingFailure => exact h.opened closingFailure
  | closes => exact h.closed
  | stays => exact h

/-- A run keeps a session sound. -/
theorem Sound.after (h : session.Sound) (steps : List Step) : (session.after steps).Sound := by
  induction steps generalizing session with
  | nil => exact h
  | cons step steps ih => exact ih (h.step step)

end Session
end SchemaTypes

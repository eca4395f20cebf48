import SchemaTypes.Proofs.Session.Lifecycle

/-!
# The use of connections

A connection is used from the step that opens it to the step that closes it, and not beyond. What a
single step may do with the connections it finds is `Orderly`: a statement reaches a cursor of the
current connection or none, a step sends one statement at most, and only a connect that succeeds or
a close changes anything about the connections. None of that depends on how the database reacts.

Over a run this becomes a statement about each connection. In a sound session the current
connection is open, so whatever is sent is sent over an open connection. A connection that was
closed (`Retired`) is not current, and the one way to become the current connection is to be
opened, under a number of its own. So a closed connection stays as it is for the rest of the run:
nothing is sent over it, and it is not closed again.
-/

namespace SchemaTypes
namespace Session

/-- The statement that a step is there to send, if it is there to send one. -/
def Step.statement? : Step → Option Statement
  | .execute statement _ => some statement
  | .ping _ => some pingStatement
  | .connect _ _ | .close => none

/-- What a step keeps to, whatever the database does. -/
structure Orderly (session : Session) (step : Step) (outcome : Outcome) : Prop where
  /-- A statement reaches only a cursor of the current connection, which was not closed. -/
  carried : ∀ sending ∈ outcome.sendings, session.current = some sending.connection ∧
    ∃ closingFailure, session.connections[sending.connection]? = some ⟨closingFailure, 0⟩
  /-- Nothing is sent, or the one statement that the step is there to send. -/
  sent : outcome.sent = [] ∨
    ∃ statement, step.statement? = some statement ∧ outcome.sent = [statement]
  /-- Without a current connection a statement fails, and is not sent. -/
  unconnected : session.current = none → step.statement? ≠ none →
    outcome.sent = [] ∧ outcome.result = .error notConnected
  /-- A connect that fails leaves the session as it was. -/
  refused : ∀ settings failure, step = .connect settings (.error failure) →
    outcome.session = session ∧ outcome.result = .error failure
  /-- A statement leaves the session as it was, however it ends. -/
  kept : step.statement? ≠ none → outcome.session = session
  /-- A close leaves no current connection, however it ends. It closes the connection that was the
  current one, and no other. -/
  closed : step = .close → outcome.session.current = none ∧
    ∀ index : Nat, outcome.session.connections[index]? =
      if session.current = some index then session.connections[index]?.map countClose
      else session.connections[index]?
  /-- A failure to close is forgiven if it is one of the driver, and otherwise handed on. -/
  closing : step = .close → ∀ (index : Nat) (connection : Connection),
    session.current = some index → session.connections[index]? = some connection →
      ∀ failure, connection.closingFailure = some failure →
        outcome.result = if failure.kind.isDriverError then .ok none else .error failure

/-- A connection that was closed, and that once. -/
def Retired (session : Session) (index : Nat) : Prop :=
  ∃ closingFailure, session.connections[index]? = some ⟨closingFailure, 1⟩

variable {session : Session}

/-! ## Statements -/

/-- A statement is sent over the current connection if that gives a cursor, and otherwise not at
all. -/
theorem sendings_execute (session : Session) (statement : Statement) (reply : Reply) :
    (session.execute statement reply).sendings = [] ∨
      ∃ index, session.current = some index ∧
        (session.execute statement reply).sendings = [⟨index, statement⟩] := by
  unfold execute
  cases session.current with
  | none => exact .inl rfl
  | some index =>
    cases reply with
    | noCursor failure => exact .inl rfl
    | cursor reaction => exact .inr ⟨index, rfl, rfl⟩

theorem execute_of_current_eq_none (h : session.current = none) (statement : Statement)
    (reply : Reply) :
    session.execute statement reply = ⟨session, .error notConnected, [], [], []⟩ := by
  unfold execute
  rw [h]

/-- What holds of a step that is there to send a statement, whatever else it does with the
result. -/
theorem orderly_of_execute (h : session.Sound) (statement : Statement) (reply : Reply)
    {step : Step} {outcome : Outcome} (hstep : step.statement? = some statement)
    (hsession : outcome.session = (session.execute statement reply).session)
    (hsendings : outcome.sendings = (session.execute statement reply).sendings)
    (hresult : ∀ failure, (session.execute statement reply).result = .error failure →
      outcome.result = .error failure) : Orderly session step outcome := by
  have hsent := sendings_execute session statement reply
  rw [← hsendings] at hsent
  have hclose : step ≠ .close := by
    rintro rfl
    cases hstep
  exact {
    carried := by
      intro sending hsending
      rcases hsent with hnone | ⟨index, hcurrent, hone⟩
      · rw [hnone] at hsending
        cases hsending
      · rw [hone, List.mem_singleton] at hsending
        rw [hsending]
        exact ⟨hcurrent, h.current index hcurrent⟩
    sent := by
      rcases hsent with hnone | ⟨index, -, hone⟩
      · exact .inl (by rw [Outcome.sent, hnone, List.map_nil])
      · exact .inr ⟨statement, hstep, by rw [Outcome.sent, hone, List.map_singleton]⟩
    unconnected := by
      intro hcurrent _
      have hexecute := execute_of_current_eq_none hcurrent statement reply
      refine ⟨?_, hresult notConnected (by rw [hexecute])⟩
      rw [Outcome.sent, hsendings, hexecute, List.map_nil]
    refused := by
      rintro settings failure rfl
      cases hstep
    kept := fun _ => hsession.trans (session_execute session statement reply)
    closed := fun h => absurd h hclose
    closing := fun h => absurd h hclose }

/-! ## Closing -/

/-- The result of closing a connection depends on how the driver fails, if it fails. -/
theorem result_close {index : Nat} {connection : Connection}
    (hcurrent : session.current = some index)
    (hconnection : session.connections[index]? = some connection) :
    session.close.result = (closing connection).1.map fun _ => none := by
  unfold close
  rw [hcurrent]
  dsimp only
  rw [hconnection]
  rfl

theorem closing_of_failure {connection : Connection} {failure : Failure}
    (h : connection.closingFailure = some failure) :
    (closing connection).1 = if failure.kind.isDriverError then .ok () else .error failure := by
  unfold closing
  rw [h]
  dsimp only
  split <;> rfl

theorem sendings_close : session.close.sendings = [] := by
  unfold close
  cases session.current <;> rfl

theorem orderly_close : Orderly session .close session.close where
  carried sending hsending := by
    rw [sendings_close] at hsending
    cases hsending
  sent := .inl (by rw [Outcome.sent, sendings_close, List.map_nil])
  unconnected _ hstep := absurd rfl hstep
  refused _ _ hstep := by cases hstep
  kept hstep := absurd rfl hstep
  closed _ := by
    rw [session_close]
    exact ⟨rfl, fun index => getElem?_closed⟩
  closing _ index connection hcurrent hconnection failure hfailure := by
    rw [result_close hcurrent hconnection, closing_of_failure hfailure]
    split <;> rfl

/-! ## Steps -/

theorem sendings_connect (settings : Settings) (reaction : Except Failure (Option Failure)) :
    (session.connect settings reaction).sendings = [] := by
  cases reaction <;> rfl

theorem orderly_connect (settings : Settings) (reaction : Except Failure (Option Failure)) :
    Orderly session (.connect settings reaction) (session.connect settings reaction) where
  carried sending hsending := by
    rw [sendings_connect] at hsending
    cases hsending
  sent := .inl (by rw [Outcome.sent, sendings_connect, List.map_nil])
  unconnected _ hstep := absurd rfl hstep
  refused _ failure hstep := by
    cases hstep
    exact ⟨rfl, rfl⟩
  kept hstep := absurd rfl hstep
  closed hstep := by cases hstep
  closing hstep := by cases hstep

/-- **Every step of a sound session is orderly.** -/
theorem orderly_step (h : session.Sound) (step : Step) :
    Orderly session step (session.step step) := by
  cases step with
  | connect settings reaction => exact orderly_connect settings reaction
  | execute statement reply =>
    exact orderly_of_execute h statement reply rfl rfl rfl fun _ hfailure => hfailure
  | ping reply =>
    refine orderly_of_execute h pingStatement reply rfl rfl rfl ?_
    intro failure hfailure
    show (session.execute pingStatement reply).result.map (fun _ => none) = _
    rw [hfailure]
    rfl
  | close => exact orderly_close

/-! ## Closed connections -/

/-- The current connection was not closed, so a closed one is not the current one. -/
theorem Sound.current_ne_of_retired (h : session.Sound) {index : Nat}
    (hretired : session.Retired index) : session.current ≠ some index := by
  intro hcurrent
  obtain ⟨_, hconnection⟩ := hretired
  obtain ⟨_, hopen⟩ := h.current index hcurrent
  rw [hconnection] at hopen
  cases hopen

/-- A step leaves a closed connection as it is. -/
theorem Sound.retired_step (h : session.Sound) {index : Nat} (hretired : session.Retired index)
    (step : Step) : (session.step step).session.Retired index := by
  have hcurrent := h.current_ne_of_retired hretired
  obtain ⟨failure, hconnection⟩ := hretired
  have hmove := session.move_step step
  generalize (session.step step).session = next at hmove
  cases hmove with
  | opens _ closingFailure =>
    -- The connection that is opened gets a number that none has had so far.
    have hindex : index ≠ session.connections.length :=
      Nat.ne_of_lt (List.getElem?_eq_some_iff.mp hconnection).1
    refine ⟨failure, ?_⟩
    rw [getElem?_opened, if_neg hindex, hconnection]
  | closes =>
    refine ⟨failure, ?_⟩
    rw [getElem?_closed, if_neg hcurrent, hconnection]
  | stays => exact ⟨failure, hconnection⟩

/-- A run leaves a closed connection as it is. -/
theorem Sound.retired_after (h : session.Sound) {index : Nat} (hretired : session.Retired index)
    (steps : List Step) : (session.after steps).Retired index := by
  induction steps generalizing session with
  | nil => exact hretired
  | cons step steps ih => exact ih (h.step step) (h.retired_step hretired step)

/-- Nothing is sent over a closed connection. -/
theorem Sound.not_sent_of_retired (h : session.Sound) {index : Nat}
    (hretired : session.Retired index) (step : Step) :
    ∀ sending ∈ (session.step step).sendings, sending.connection ≠ index := by
  rintro sending hsending rfl
  exact h.current_ne_of_retired hretired ((orderly_step h step).carried sending hsending).1

theorem after_append (session : Session) (steps others : List Step) :
    session.after (steps ++ others) = (session.after steps).after others :=
  List.foldl_append

/-- **Connections are used while they are open, and closed once.** After any steps, whatever the
database did in reply, no connection was closed twice and the current one was not closed at all;
every further step is orderly; and a connection that was closed is neither used nor closed in
whatever steps may follow. -/
theorem used_while_open_and_closed_once (steps : List Step) :
    (unconnected.after steps).Sound ∧
      (∀ step, Orderly (unconnected.after steps) step ((unconnected.after steps).step step)) ∧
      ∀ index, (unconnected.after steps).Retired index → ∀ further : List Step,
        (unconnected.after (steps ++ further)).Retired index ∧
          ∀ step, ∀ sending ∈ ((unconnected.after (steps ++ further)).step step).sendings,
            sending.connection ≠ index := by
  have hsound := sound_unconnected.after steps
  refine ⟨hsound, orderly_step hsound, fun index hretired further => ?_⟩
  have hlater := hsound.retired_after hretired further
  rw [after_append]
  exact ⟨hlater, (hsound.after further).not_sent_of_retired hlater⟩

/-- A second close finds no connection, also if the first one failed. -/
example (settings : Settings) (failure : Failure) :
    (unconnected.after [.connect settings (.ok (some failure)), .close, .close]).connections
      = [⟨some failure, 1⟩] := rfl

end Session
end SchemaTypes

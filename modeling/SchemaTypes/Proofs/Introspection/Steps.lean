import SchemaTypes.Introspection

/-!
# Steps of an introspection

What a single step of an introspection does to its progress, so that nobody has to look inside the
computation again. A query is put down before its answer is looked at, whether it is answered or
fails; what follows a failed step is not run; and work on rows that were answered leaves the
progress alone.

What was reported before has no influence on results and queries. So where reports do not matter, a
run is described by the result and the queries that it leads to (`Leads`), and its steps compose.
-/

namespace SchemaTypes
namespace Introspection

variable {α β : Type}

/-- The progress after a query was issued. -/
def Progress.issued (progress : Progress) (query : Query) : Progress :=
  { progress with queries := progress.queries ++ [query] }

/-- The error of a query that fails. -/
def Query.failure (query : Query) (failure : Failure) : Error :=
  .query ⟨query.stage, query.schemaName, query.tableName, some failure⟩

/-- A step behind another one is run if that has not failed. -/
theorem run_bind (first : Run α) (next : α → Run β) (progress : Progress) :
    (first >>= next).run.run progress =
      match first.run.run progress with
      | (.ok a, progress) => (next a).run.run progress
      | (.error error, progress) => (.error error, progress) := by
  rw [ExceptT.run_bind, StateT.run_bind]
  cases first.run.run progress with
  | mk result progress => cases result <;> rfl

/-- Work that may fail but issues nothing leaves the progress as it is. -/
theorem run_lift (result : Except Error α) (progress : Progress) :
    (liftM result : Run α).run.run progress = (result, progress) := by
  cases result <;> rfl

/-- A query is issued, and its answer is the executor's to the queries before it. -/
theorem run_ask (executor : Executor) (query : Query) (progress : Progress) :
    (ask executor query).run.run progress =
      ((executor progress.queries query).mapError query.failure, progress.issued query) := by
  have hget : (get : Run Progress).run.run progress = (.ok progress, progress) := rfl
  have hset : (set { progress with queries := progress.queries ++ [query] } : Run PUnit).run.run
      progress = (.ok (), progress.issued query) := rfl
  unfold ask
  rw [run_bind, hget]
  dsimp only
  rw [run_bind, hset]
  cases executor progress.queries query <;> rfl

/-- Reading the enum types takes one query and then their rows. -/
theorem run_fetchEnums (executor : Executor) (schemaName : Value) (progress : Progress) :
    (fetchEnums executor schemaName).run.run progress =
      ((executor progress.queries (.enums schemaName)).mapError
          (Query.enums schemaName).failure |>.bind (enumsOfRows schemaName),
        progress.issued (.enums schemaName)) := by
  rw [fetchEnums, run_bind, run_ask]
  cases executor progress.queries (.enums schemaName) with
  | ok rows => exact run_lift _ _
  | error failure => rfl

/-! ## Results and queries -/

/-- After the given queries, a run has the given result, and it issues the given further queries,
whatever was reported. -/
def Leads (run : Run α) (before : List Query) (result : Except Error α) (queries : List Query) :
    Prop :=
  ∀ log, ∃ log', run.run.run ⟨before, log⟩ = (result, ⟨before ++ queries, log'⟩)

section Leads

variable {before queries others : List Query} {first : Run α} {next : α → Run β} {a : α}
  {error : Error} {result : Except Error β}

/-- What a run leads to is determined. -/
theorem Leads.unique {run : Run α} {result result' : Except Error α}
    (h : Leads run before result queries) (h' : Leads run before result' others) :
    result = result' ∧ queries = others := by
  obtain ⟨log, hrun⟩ := h []
  obtain ⟨log', hrun'⟩ := h' []
  rw [hrun] at hrun'
  obtain ⟨hresult, hprogress⟩ := Prod.mk.inj hrun'
  exact ⟨hresult, List.append_cancel_left (Progress.mk.inj hprogress).1⟩

theorem leads_lift (result : Except Error α) : Leads (liftM result) before result [] := by
  intro log
  exact ⟨log, by rw [run_lift, List.append_nil]⟩

theorem leads_report (level : Log.Level) (text : String) :
    Leads (report level text) before (.ok ()) [] := by
  intro log
  exact ⟨_, by rw [List.append_nil]; rfl⟩

theorem leads_ask (executor : Executor) (before : List Query) (query : Query) :
    Leads (ask executor query) before ((executor before query).mapError query.failure) [query] := by
  intro log
  exact ⟨log, run_ask executor query ⟨before, log⟩⟩

/-- A step behind one that succeeds. -/
theorem Leads.bind (hfirst : Leads first before (.ok a) queries)
    (hnext : Leads (next a) (before ++ queries) result others) :
    Leads (first >>= next) before result (queries ++ others) := by
  intro log
  obtain ⟨log', hrun⟩ := hfirst log
  obtain ⟨log'', hrun'⟩ := hnext log'
  exact ⟨log'', by rw [run_bind, hrun, ← List.append_assoc]; exact hrun'⟩

/-- A step behind one that issues nothing. -/
theorem Leads.bind_nil (hfirst : Leads first before (.ok a) [])
    (hnext : Leads (next a) before result others) :
    Leads (first >>= next) before result others := by
  rw [← List.append_nil before] at hnext
  exact hfirst.bind hnext

/-- A step that issues nothing, behind another one. -/
theorem Leads.bind_last (hfirst : Leads first before (.ok a) queries)
    (hnext : Leads (next a) (before ++ queries) result []) :
    Leads (first >>= next) before result queries := by
  have h := hfirst.bind hnext
  rwa [List.append_nil] at h

/-- A step behind one that fails. -/
theorem Leads.bind_error (hfirst : Leads first before (.error error) queries) :
    Leads (first >>= next) before (.error error) queries := by
  intro log
  obtain ⟨log', hrun⟩ := hfirst log
  exact ⟨log', by rw [run_bind, hrun]⟩

/-- An introspection has the result of its run, and has issued its queries. -/
theorem introspect_of_leads {executor : Executor} {schemaName : Value}
    {result : Except Error DatabaseSchema}
    (h : Leads (fetchSchema executor schemaName) [] result queries) :
    (introspect executor schemaName).result = result ∧
      (introspect executor schemaName).queries = queries := by
  obtain ⟨log, hrun⟩ := h []
  constructor
  · exact congrArg Prod.fst hrun
  · exact congrArg (fun left => left.2.queries) hrun

end Leads

end Introspection
end SchemaTypes

import SchemaTypes.Proofs.Introspection.Unusable

/-!
# How an introspection fails

An introspection goes along its points up to the first one where something is wrong (`Goes`), and
nothing else has to be known about it in order to tell how it ends and which queries it has issued.
A run and what follows it go along the points of the one and then along those of the other, so the
points of a loop are found by induction on its rows.

Hence a failure tells where it comes from (`Localised`). A query that fails is the last one that is
issued, and the error names its kind, its parameters and the text of the failure; a row that cannot
be used, because it lacks a column or has something else than a text, ends the introspection with an
error of its own, before any further query; and where nothing is wrong there is a schema.
-/

namespace SchemaTypes
namespace Introspection

/-! ## Runs along points -/

/-- After the given queries, a run goes along points up to the first one where something is wrong.
It issues the queries of those that it reaches, and fails just as this one says. -/
def Goes {α : Type} (fault : Point → Option Error) (run : Run α) (before : List Query)
    (points : List Point) : Prop :=
  ∃ result, Leads run before result (issued (reached fault points)) ∧
    errorOf result = points.findSome? fault

section Goes

variable {α β : Type} {fault : Point → Option Error} {before : List Query}
  {points others : List Point}

/-- A run and the run behind it. The second one goes along its points if the first has passed all of
its own. -/
theorem Goes.bind {first : Run α} {next : α → Run β} (hfirst : Goes fault first before points)
    (hnext : ∀ a, Leads first before (.ok a) (issued points) →
      Goes fault (next a) (before ++ issued points) others) :
    Goes fault (first >>= next) before (points ++ others) := by
  obtain ⟨result, hleads, herror⟩ := hfirst
  cases result with
  | error error =>
    refine ⟨.error error, ?_, ?_⟩
    · rw [reached_append_of_some herror.symm]
      exact hleads.bind_error
    · rw [List.findSome?_append, ← herror]
      rfl
  | ok a =>
    rw [reached_eq_self herror.symm] at hleads
    obtain ⟨result, hleads', herror'⟩ := hnext a hleads
    refine ⟨result, ?_, ?_⟩
    · rw [reached_append_of_none herror.symm, issued_append]
      exact hleads.bind hleads'
    · rw [List.findSome?_append, ← herror, herror']
      rfl

/-- Work that may fail at points where nothing is asked. -/
theorem goes_lift {result : Except Error α} (h : errorOf result = points.findSome? fault)
    (hissued : issued points = []) : Goes fault (liftM result) before points := by
  have hnone : issued (reached fault points) = [] :=
    List.prefix_nil.mp (hissued ▸ (reached_isPrefix fault points).filterMap _)
  exact ⟨result, by rw [hnone]; exact leads_lift result, h⟩

theorem goes_report (level : Log.Level) (text : String) :
    Goes fault (report level text) before [] :=
  ⟨.ok (), leads_report level text, rfl⟩

end Goes

section Fetch

variable {executor : Executor} {schemaName : Value} {before : List Query}

/-- A query goes along one point. -/
theorem goes_ask (query : Query) :
    Goes (Point.fault executor schemaName) (ask executor query) before [.ask before query] := by
  refine ⟨_, ?_, List.findSome?_singleton.symm⟩
  rw [reached_singleton]
  exact leads_ask executor before query

/-- The error of one result behind another is the first one. -/
theorem errorOf_cons {α : Type} (first : Except Error α) (others : Except Error (List α)) :
    errorOf (do let a ← first; let as ← others; return a :: as) =
      (errorOf first).or (errorOf others) := by
  cases first <;> cases others <;> rfl

/-- Rows are read one after the other. -/
theorem errorOf_rows {α : Type} {fault : Point → Option Error} {point : Row → Point}
    (readRow : Row → Except Error α) (readRows : List Row → Except Error (List α))
    (hnil : readRows [] = .ok [])
    (hcons : ∀ row rows, readRows (row :: rows) =
      do let a ← readRow row; let as ← readRows rows; return a :: as)
    (hpoint : ∀ row, fault (point row) = errorOf (readRow row)) (rows : List Row) :
    errorOf (readRows rows) = (rows.map point).findSome? fault := by
  induction rows with
  | nil =>
    rw [hnil]
    rfl
  | cons row rows ih =>
    rw [hcons, errorOf_cons, ih, List.map_cons, ← List.singleton_append, List.findSome?_append,
      List.findSome?_singleton, hpoint]

/-- The rows that a run goes on with are those that its query was answered. -/
theorem answer_of_leads {query : Query} {rows : List Row} {queries : List Query}
    (h : Leads (ask executor query) before (.ok rows) queries) :
    answer executor before query = rows := by
  obtain ⟨hresult, -⟩ := (leads_ask executor before query).unique h
  exact answer_of_ok (mapError_eq_ok_iff.mp hresult)

theorem goes_fetchColumns (tableName tableSchema : Value) :
    Goes (Point.fault executor schemaName) (fetchColumns executor tableName tableSchema) before
      (.ask before (.columns tableName tableSchema) ::
        (answer executor before (.columns tableName tableSchema)).map .column) := by
  refine (goes_ask (.columns tableName tableSchema)).bind fun rows hrows => ?_
  rw [answer_of_leads hrows]
  exact goes_lift
    (errorOf_rows columnOfRow columnsOfRows rfl (fun _ _ => rfl) (fun _ => rfl) rows)
    (issued_map_of_query?_eq_none (fun _ => rfl) rows)

theorem goes_fetchEnums :
    Goes (Point.fault executor schemaName) (fetchEnums executor schemaName) before
      (.ask before (.enums schemaName) ::
        (answer executor before (.enums schemaName)).map .enum) := by
  refine (goes_ask (.enums schemaName)).bind fun rows hrows => ?_
  rw [answer_of_leads hrows]
  exact goes_lift
    (errorOf_rows (enumOfRow schemaName) (enumsOfRows schemaName) rfl (fun _ _ => rfl)
      (fun _ => rfl) rows)
    (issued_map_of_query?_eq_none (fun _ => rfl) rows)

/-- Whether a table can be made has nothing to do with its columns. -/
theorem errorOf_tableOf (name tableSchema : Value) (columns others : List Column) :
    errorOf (tableOf name tableSchema columns) = errorOf (tableOf name tableSchema others) := by
  have hchecks : ∀ (input : List (String × Value)) (name tableSchema : Checked String),
      errorOf (accept "Table" input (Table.mk <$> name <*> tableSchema <*> pure columns)) =
        errorOf (accept "Table" input (Table.mk <$> name <*> tableSchema <*> pure others)) := by
    intro input name tableSchema
    cases name <;> cases tableSchema <;> rfl
  exact hchecks _ _ _

/-- Whether a schema can be made has nothing to do with what is in it. -/
theorem errorOf_schemaOf (tables : List Table) (enums : List EnumType) :
    errorOf (schemaOf schemaName tables enums) = errorOf (schemaOf schemaName [] []) := by
  have hchecks : ∀ (input : List (String × Value)) (name : Checked String),
      errorOf (accept "DatabaseSchema" input
          (DatabaseSchema.mk <$> name <*> pure tables <*> pure enums)) =
        errorOf (accept "DatabaseSchema" input
          (DatabaseSchema.mk <$> name <*> pure [] <*> pure [])) := by
    intro input name
    cases name <;> rfl
  exact hchecks _ _

theorem goes_fetchTable (row : Row) :
    Goes (Point.fault executor schemaName) (fetchTable executor schemaName row) before
      (.name row :: .ask before (columnsQuery schemaName row) ::
        (answer executor before (columnsQuery schemaName row)).map .column ++ [.table row]) := by
  have hname : Goes (Point.fault executor schemaName)
      (liftM (column row "table_name") : Run Value) before [.name row] :=
    goes_lift List.findSome?_singleton.symm rfl
  refine hname.bind fun name hleads => ?_
  have hcolumn : name = column? row "table_name" := by
    obtain ⟨hresult, -⟩ := (leads_lift _).unique hleads
    rw [column?, column_eq_ok_iff.mp hresult, Option.getD_some]
  subst hcolumn
  rw [show issued [Point.name row] = [] from rfl, List.append_nil]
  refine (goes_fetchColumns _ _).bind fun columns _ => ?_
  refine (goes_report _ _).bind fun _ _ => goes_lift ?_ rfl
  rw [List.findSome?_singleton]
  exact errorOf_tableOf _ _ _ _

theorem goes_fetchTablesOf (rows : List Row) :
    Goes (Point.fault executor schemaName) (fetchTablesOf executor schemaName rows) before
      (tablePoints schemaName before (withColumns executor schemaName before rows)) := by
  induction rows generalizing before with
  | nil => exact goes_lift rfl rfl
  | cons row rows ih =>
    rw [fetchTablesOf, withColumns, tablePoints, List.append_cons]
    refine (goes_fetchTable row).bind fun table _ => ?_
    rw [issued_tablePoints_singleton, ← List.append_nil (tablePoints _ _ _)]
    exact ih.bind fun tables _ => goes_lift rfl rfl

theorem goes_fetchTables :
    Goes (Point.fault executor schemaName) (fetchTables executor schemaName) []
      (.ask [] (.tables schemaName) ::
        tablePoints schemaName [.tables schemaName] (catalogueOf executor schemaName).tables) := by
  refine (goes_ask (.tables schemaName)).bind fun rows hrows => ?_
  rw [catalogueOf, answer_of_leads hrows]
  exact goes_fetchTablesOf rows

theorem goes_fetchSchema (executor : Executor) (schemaName : Value) :
    Goes (Point.fault executor schemaName) (fetchSchema executor schemaName) []
      ((catalogueOf executor schemaName).points schemaName) := by
  rw [fetchSchema, Catalogue.points, List.append_assoc]
  refine goes_fetchTables.bind fun tables _ => ?_
  rw [issued_tables, List.nil_append]
  refine goes_fetchEnums.bind fun enums _ => ?_
  refine (goes_report _ _).bind fun _ _ => goes_lift ?_ rfl
  rw [List.findSome?_singleton]
  exact errorOf_schemaOf _ _

end Fetch

/-! ## Failures -/

/-- An error tells of a query and its failure. -/
structure Tells (query : Query) (failure : Failure) (error : QueryError) : Prop where
  stage : error.stage = query.stage
  /-- The names are the parameters of the query. -/
  parameters : query.parameters =
    (if query.stage = .columns then [error.tableName] else []) ++ [error.schemaName]
  /-- Only a query for columns is about a table. -/
  tableName : query.stage ≠ .columns → error.tableName = .null
  cause : error.cause = some failure
  /-- The text ends with that of the failure. -/
  message : ∃ front, error.message = front ++ ": " ++ failure.message

/-- What an introspection has issued, and how it ends, in terms of the points of the catalogue that
the executor has to give. -/
structure Localised (executor : Executor) (schemaName : Value) (outcome : Outcome) : Prop where
  /-- The queries are the first ones of those for the tables, the columns of each, and the enum
  types. -/
  planned : outcome.queries <+: (catalogueOf executor schemaName).queries schemaName
  /-- A query that fails is the last one. -/
  last : ∀ before query after failure, outcome.queries = before ++ query :: after →
    executor before query = .error failure → after = []
  /-- The error is one of a query if, and only if, the last query has failed. -/
  wrapped : (∃ error, outcome.result = .error (.query error)) ↔
    ∃ before query failure, outcome.queries = before ++ [query] ∧
      executor before query = .error failure
  /-- It tells of this query and its failure. -/
  told : ∀ error before query failure, outcome.result = .error (.query error) →
    outcome.queries = before ++ [query] → executor before query = .error failure →
      Tells query failure error
  /-- The first point where something is wrong ends the run with the error of this point, and with
  no query behind it. -/
  ended : ∀ passed point rest error,
    (catalogueOf executor schemaName).points schemaName = passed ++ point :: rest →
      (∀ other ∈ passed, other.fault executor schemaName = none) →
      point.fault executor schemaName = some error →
        outcome.result = .error error ∧ outcome.queries = issued passed ++ point.query?.toList
  /-- Where nothing is asked, the error is that of a row. -/
  unwrapped : ∀ point ∈ (catalogueOf executor schemaName).points schemaName, ∀ error,
    point.query? = none → point.fault executor schemaName = some error → OfRow point.row error
  /-- It says that a column is missing if, and only if, the row lacks this column, and none of those
  that are looked for before it. -/
  lacking : ∀ point ∈ (catalogueOf executor schemaName).points schemaName, ∀ name,
    point.query? = none → (point.fault executor schemaName = some (.missingColumn name) ↔
      lacking? point.row point.needs = some name)
  /-- It says that a record is refused if, and only if, the row lacks nothing, and a value that has
  to be a text is none. -/
  refused : ∀ point ∈ (catalogueOf executor schemaName).points schemaName, point.query? = none →
    ((∃ error, point.fault executor schemaName = some (.invalidRecord error)) ↔
      lacking? point.row point.needs = none ∧ ¬ point.HasTexts schemaName)
  /-- There is a schema if, and only if, nothing is wrong anywhere. -/
  returned : (∃ schema, outcome.result = .ok schema) ↔
    ∀ point ∈ (catalogueOf executor schemaName).points schemaName,
      point.fault executor schemaName = none
  /-- Then no query was left out. -/
  complete : ∀ schema, outcome.result = .ok schema →
    outcome.queries = (catalogueOf executor schemaName).queries schemaName

section Failures

variable {executor : Executor} {schemaName : Value} {error : Error}

theorem tells_failure (query : Query) (failure : Failure) :
    Tells query failure ⟨query.stage, query.schemaName, query.tableName, some failure⟩ where
  stage := rfl
  parameters := by cases query <;> rfl
  tableName := by
    intro h
    cases query with
    | columns _ _ => exact absurd rfl h
    | _ => rfl
  cause := rfl
  message := ⟨_, (String.append_assoc ..).symm⟩

/-- The error of a query is found at a point where this query fails. -/
theorem exists_ask_of_fault {point : Point} {error : QueryError}
    (h : point.fault executor schemaName = some (.query error)) :
    ∃ before query failure, point = .ask before query ∧ executor before query = .error failure := by
  cases hquery : point.query? with
  | none => cases ofRow_fault hquery h
  | some query =>
    cases point with
    | ask before asked =>
      rw [Point.fault] at h
      cases hanswer : executor before asked with
      | ok rows =>
        rw [hanswer] at h
        cases h
      | error failure => exact ⟨before, asked, failure, rfl, hanswer⟩
    | _ => cases hquery

theorem fault_ask (schemaName : Value) {before : List Query} {query : Query} {failure : Failure}
    (h : executor before query = .error failure) :
    (Point.ask before query).fault executor schemaName = some (query.failure failure) := by
  rw [Point.fault, h]
  rfl

/-- An introspection issues the queries of the points that it reaches. -/
theorem queries_introspect (executor : Executor) (schemaName : Value) :
    (introspect executor schemaName).queries =
      issued (reached (Point.fault executor schemaName)
        ((catalogueOf executor schemaName).points schemaName)) := by
  obtain ⟨result, hleads, -⟩ := goes_fetchSchema executor schemaName
  exact (introspect_of_leads hleads).2

/-- An introspection has the first error of its points. -/
theorem errorOf_introspect (executor : Executor) (schemaName : Value) :
    errorOf (introspect executor schemaName).result =
      ((catalogueOf executor schemaName).points schemaName).findSome?
        (Point.fault executor schemaName) := by
  obtain ⟨result, hleads, herror⟩ := goes_fetchSchema executor schemaName
  rw [(introspect_of_leads hleads).1]
  exact herror

/-- The first fault ends an introspection. -/
theorem ends_at_fault {passed rest : List Point} {point : Point}
    (hpoints : (catalogueOf executor schemaName).points schemaName = passed ++ point :: rest)
    (hpassed : passed.findSome? (Point.fault executor schemaName) = none)
    (hpoint : point.fault executor schemaName = some error) :
    (introspect executor schemaName).result = .error error ∧
      (introspect executor schemaName).queries = issued passed ++ point.query?.toList := by
  constructor
  · apply eq_error_of_errorOf
    rw [errorOf_introspect, hpoints, List.findSome?_append, hpassed, List.findSome?_cons, hpoint]
    rfl
  · rw [queries_introspect, hpoints, reached_of_fault hpassed hpoint, issued_append, issued_cons]
    exact congrArg _ (List.append_nil _)

/-- A query that was issued and has failed is the last one, and its failure is the error. -/
theorem ends_at_query {before after : List Query} {query : Query} {failure : Failure}
    (hqueries : (introspect executor schemaName).queries = before ++ query :: after)
    (hfailure : executor before query = .error failure) :
    after = [] ∧ (introspect executor schemaName).result = .error (query.failure failure) := by
  rw [queries_introspect] at hqueries
  obtain ⟨passed, earlier, rest, hreached, hpassed, hrest⟩ := exists_point_of_issued hqueries
  obtain ⟨behind, hpoints⟩ := reached_isPrefix (Point.fault executor schemaName)
    ((catalogueOf executor schemaName).points schemaName)
  rw [hreached, List.append_assoc, List.cons_append] at hpoints
  have hearlier : earlier = before := (earlier_eq_issued hpoints.symm).trans hpassed
  subst hearlier
  have hfault := fault_ask schemaName hfailure
  obtain ⟨hnil, hnone⟩ := eq_nil_of_reached hreached (by rw [hfault]; exact nofun)
  refine ⟨?_, (ends_at_fault hpoints.symm hnone hfault).1⟩
  rw [← hrest, hnil]
  rfl

/-- If the error is one of a query, then the last query has failed. -/
theorem exists_query_of_result {error : QueryError}
    (h : (introspect executor schemaName).result = .error (.query error)) :
    ∃ before query failure, (introspect executor schemaName).queries = before ++ [query] ∧
      executor before query = .error failure := by
  have herror := errorOf_introspect executor schemaName
  rw [h] at herror
  obtain ⟨passed, point, rest, hpoints, hpoint, hpassed⟩ :=
    List.findSome?_eq_some_iff.mp herror.symm
  obtain ⟨before, query, failure, rfl, hfailure⟩ := exists_ask_of_fault hpoint
  have hends := ends_at_fault hpoints (List.findSome?_eq_none_iff.mpr hpassed) hpoint
  rw [← earlier_eq_issued hpoints] at hends
  exact ⟨before, query, failure, hends.2, hfailure⟩

/-- **A failing introspection tells where it has failed.** Whatever the executor answers, and
whatever the schema is called, the run ends at the first point where something is wrong: at a query,
with an error that names it, or at a row, with the error of this row. -/
theorem localised_introspect (executor : Executor) (schemaName : Value) :
    Localised executor schemaName (introspect executor schemaName) where
  planned := by
    rw [queries_introspect, ← issued_points]
    exact (reached_isPrefix _ _).filterMap _
  last := fun _ _ _ _ hqueries hfailure => (ends_at_query hqueries hfailure).1
  wrapped := by
    constructor
    · rintro ⟨error, hresult⟩
      exact exists_query_of_result hresult
    · rintro ⟨before, query, failure, hqueries, hfailure⟩
      exact ⟨_, (ends_at_query hqueries hfailure).2⟩
  told := by
    intro error before query failure hresult hqueries hfailure
    rw [(ends_at_query hqueries hfailure).2] at hresult
    cases hresult
    exact tells_failure query failure
  ended := fun _ _ _ _ hpoints hpassed hpoint =>
    ends_at_fault hpoints (List.findSome?_eq_none_iff.mpr hpassed) hpoint
  unwrapped := fun _ _ _ hquery hpoint => ofRow_fault hquery hpoint
  lacking := fun _ _ _ hquery => fault_missing_iff hquery
  refused := fun _ _ hquery => fault_invalid_iff hquery
  returned := by
    rw [← List.findSome?_eq_none_iff, ← errorOf_introspect]
    cases (introspect executor schemaName).result with
    | ok schema => exact iff_of_true ⟨schema, rfl⟩ rfl
    | error error => exact iff_of_false nofun nofun
  complete := by
    intro schema hresult
    have herror := errorOf_introspect executor schemaName
    rw [hresult] at herror
    rw [queries_introspect, reached_eq_self herror.symm, issued_points]

end Failures

/-- A row without a name stands behind the query for the columns of the row before it. -/
example :
    let executor : Executor
      | _, .tables _ => .ok [[("table_name", .text "t")], [("table_schema", .text "app")]]
      | _, _ => .ok []
    (introspect executor (.text "app")).queries =
        [.tables (.text "app"), .columns (.text "t") (.text "app")] ∧
      (introspect executor (.text "app")).result = .error (.missingColumn "table_name") :=
  ⟨rfl, rfl⟩

end Introspection
end SchemaTypes

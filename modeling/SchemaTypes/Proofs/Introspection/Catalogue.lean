import SchemaTypes.Proofs.Introspection.Rows
import SchemaTypes.Proofs.Introspection.Steps

/-!
# What an introspection finds

The answers to the queries of an introspection are a catalogue: rows of tables, each with the rows
of its columns, and rows of enum types. Which columns are asked for depends on the rows of the
tables, and an answer may depend on the queries before it. Still, an executor has but one catalogue
to give (`catalogueOf`), and it lays down the queries that there can be (`Catalogue.queries`).

If all of these are answered, and with usable rows, then the introspection asks just them and finds
the schema that the catalogue describes, row by row.
-/

namespace SchemaTypes
namespace Introspection

/-! ## Catalogues -/

/-- The rows of tables, each with the rows of its columns, and the rows of enum types. -/
structure Catalogue where
  tables : List (Row × List Row)
  enums : List Row

/-- The query for the columns of the table that a row is about. -/
def columnsQuery (schemaName : Value) (row : Row) : Query :=
  .columns (column? row "table_name") (orElse (column? row "table_schema") schemaName)

/-- The queries for the columns of tables. -/
def columnsQueries (schemaName : Value) (tables : List (Row × List Row)) : List Query :=
  tables.map fun table => columnsQuery schemaName table.1

namespace Catalogue

/-- The queries that a catalogue answers: one for the tables, then one for the columns of each, and
one for the enum types. -/
def queries (schemaName : Value) (catalogue : Catalogue) : List Query :=
  .tables schemaName :: columnsQueries schemaName catalogue.tables ++ [.enums schemaName]

/-- The schema that a catalogue describes. -/
def schema (schemaName : String) (catalogue : Catalogue) : DatabaseSchema where
  schemaName := schemaName
  tables := catalogue.tables.map fun table => tableDescribed schemaName table.1 table.2
  enums := catalogue.enums.map (enumDescribed schemaName)

/-- All rows of a catalogue can be used. -/
structure Usable (catalogue : Catalogue) : Prop where
  tables : ∀ table ∈ catalogue.tables, UsableRow table.1 .tables
  columns : ∀ table ∈ catalogue.tables, ∀ row ∈ table.2, UsableRow row .columns
  enums : ∀ row ∈ catalogue.enums, UsableRow row .enums

end Catalogue

/-- The query for the columns of a table. -/
def columnsOf (table : Table) : Query :=
  .columns (.text table.name) (.text table.schemaName)

/-- The queries for the parts of a schema. -/
def queriesFor (schema : DatabaseSchema) : List Query :=
  .tables (.text schema.schemaName) :: schema.tables.map columnsOf ++
    [.enums (.text schema.schemaName)]

/-- An executor gives the columns of tables, asked for one table at a time after other queries. -/
def GivesColumns (executor : Executor) (schemaName : Value) (before : List Query)
    (tables : List (Row × List Row)) : Prop :=
  ∀ earlier row rows later, tables = earlier ++ (row, rows) :: later →
    executor (before ++ columnsQueries schemaName earlier) (columnsQuery schemaName row) = .ok rows

/-- An executor gives a catalogue, asked for it in order. -/
structure Gives (executor : Executor) (schemaName : Value) (catalogue : Catalogue) : Prop where
  tables : executor [] (.tables schemaName) = .ok (catalogue.tables.map Prod.fst)
  columns : GivesColumns executor schemaName [.tables schemaName] catalogue.tables
  enums : executor (.tables schemaName :: columnsQueries schemaName catalogue.tables)
    (.enums schemaName) = .ok catalogue.enums

/-! ## The catalogue of an executor -/

/-- The rows that a query is answered after others; none if it fails. -/
def answer (executor : Executor) (before : List Query) (query : Query) : List Row :=
  (executor before query).toOption.getD []

/-- The rows of tables with the rows that the queries for their columns are answered, one after the
other. -/
def withColumns (executor : Executor) (schemaName : Value) :
    List Query → List Row → List (Row × List Row)
  | _, [] => []
  | before, row :: rest =>
    let query := columnsQuery schemaName row
    (row, answer executor before query) ::
      withColumns executor schemaName (before ++ [query]) rest

/-- The catalogue that an executor has to give. -/
def catalogueOf (executor : Executor) (schemaName : Value) : Catalogue :=
  let tables := withColumns executor schemaName [.tables schemaName]
    (answer executor [] (.tables schemaName))
  ⟨tables, answer executor (.tables schemaName :: columnsQueries schemaName tables)
    (.enums schemaName)⟩

variable {executor : Executor} {schemaName : Value} {before : List Query}

theorem answer_of_ok {query : Query} {rows : List Row} (h : executor before query = .ok rows) :
    answer executor before query = rows := by
  rw [answer, h]
  rfl

theorem map_fst_withColumns (rows : List Row) :
    (withColumns executor schemaName before rows).map Prod.fst = rows := by
  induction rows generalizing before with
  | nil => rfl
  | cons row rows ih => rw [withColumns, List.map_cons, ih]

/-- The rows of columns are what the executor answers in their place. -/
theorem eq_answer_of_withColumns {rows rows' : List Row} {row : Row}
    {earlier later : List (Row × List Row)}
    (h : withColumns executor schemaName before rows = earlier ++ (row, rows') :: later) :
    rows' = answer executor (before ++ columnsQueries schemaName earlier)
      (columnsQuery schemaName row) := by
  induction earlier generalizing before rows with
  | nil =>
    cases rows with
    | nil => cases h
    | cons first rows =>
      obtain ⟨hfirst, -⟩ := List.cons.inj h
      cases hfirst
      rw [columnsQueries, List.map_nil, List.append_nil]
  | cons table earlier ih =>
    cases rows with
    | nil => cases h
    | cons first rows =>
      obtain ⟨hfirst, hrest⟩ := List.cons.inj h
      rw [ih hrest, ← hfirst, List.append_assoc]
      rfl

/-- The query for the columns of a table stands behind those of the tables before it. -/
theorem queries_of_tables {catalogue : Catalogue} {row : Row} {rows : List Row}
    {earlier later : List (Row × List Row)}
    (h : catalogue.tables = earlier ++ (row, rows) :: later) :
    catalogue.queries schemaName =
      (.tables schemaName :: columnsQueries schemaName earlier) ++ columnsQuery schemaName row ::
        (columnsQueries schemaName later ++ [.enums schemaName]) := by
  rw [Catalogue.queries, h, columnsQueries, List.map_append, List.map_cons]
  simp only [columnsQueries, List.cons_append, List.append_assoc]

/-- If every query of its catalogue is answered, an executor gives it. -/
theorem gives_catalogueOf
    (h : ∀ before query after,
      (catalogueOf executor schemaName).queries schemaName = before ++ query :: after →
        ∃ rows, executor before query = .ok rows) :
    Gives executor schemaName (catalogueOf executor schemaName) where
  tables := by
    obtain ⟨rows, hrows⟩ := h [] (.tables schemaName) _ rfl
    rw [hrows, catalogueOf, map_fst_withColumns, answer_of_ok hrows]
  columns := by
    intro earlier row rows later hsplit
    obtain ⟨rows', hrows'⟩ := h _ _ _ (queries_of_tables hsplit)
    rw [eq_answer_of_withColumns hsplit]
    exact hrows'.trans (congrArg _ (answer_of_ok hrows').symm)
  enums := by
    obtain ⟨rows, hrows⟩ := h (.tables schemaName ::
      columnsQueries schemaName (catalogueOf executor schemaName).tables) (.enums schemaName) [] rfl
    exact hrows.trans (congrArg _ (answer_of_ok hrows).symm)

/-! ## Reading it -/

section Reading

variable {s : String}

/-- A query that is answered. -/
theorem leads_ask_of_ok {query : Query} {rows : List Row} (h : executor before query = .ok rows) :
    Leads (ask executor query) before (.ok rows) [query] := by
  have hask := leads_ask executor before query
  rwa [h] at hask

theorem leads_fetchColumns {tableName : Value} {rows : List Row}
    (h : executor before (.columns tableName schemaName) = .ok rows) :
    Leads (fetchColumns executor tableName schemaName) before (columnsOfRows rows)
      [.columns tableName schemaName] :=
  (leads_ask_of_ok h).bind_last (leads_lift _)

theorem leads_fetchEnums {rows : List Row} (h : executor before (.enums schemaName) = .ok rows) :
    Leads (fetchEnums executor schemaName) before (enumsOfRows schemaName rows)
      [.enums schemaName] :=
  (leads_ask_of_ok h).bind_last (leads_lift _)

/-- The query for the columns of a usable row is about the table that the row describes. -/
theorem columnsQuery_of_usable {row : Row} (h : UsableRow row .tables) (rows : List Row) :
    columnsQuery (.text s) row = columnsOf (tableDescribed s row rows) := by
  rw [columnsQuery, column?_of_hasText h.1, orElse_of_mayHaveText h.2]
  rfl

/-- The table of a usable row, with usable rows for its columns, takes one query to read. -/
theorem leads_fetchTable {row : Row} {rows : List Row} (hrow : UsableRow row .tables)
    (hrows : ∀ row ∈ rows, UsableRow row .columns)
    (hask : executor before (columnsQuery (.text s) row) = .ok rows) :
    Leads (fetchTable executor (.text s) row) before (.ok (tableDescribed s row rows))
      [columnsQuery (.text s) row] := by
  rw [columnsQuery_of_usable hrow rows] at hask ⊢
  have hcolumns := leads_fetchColumns hask
  rw [columnsOfRows_of_usable hrows] at hcolumns
  rw [fetchTable, orElse_of_mayHaveText hrow.2, column_of_hasText hrow.1]
  refine (leads_lift _).bind_nil (hcolumns.bind_last ((leads_report _ _).bind_nil ?_))
  rw [tableOf_text]
  exact leads_lift _

/-- Tables are read one after the other. -/
theorem leads_fetchTablesOf {tables : List (Row × List Row)}
    (htables : ∀ table ∈ tables, UsableRow table.1 .tables)
    (hcolumns : ∀ table ∈ tables, ∀ row ∈ table.2, UsableRow row .columns)
    (hgives : GivesColumns executor (.text s) before tables) :
    Leads (fetchTablesOf executor (.text s) (tables.map Prod.fst)) before
      (.ok (tables.map fun table => tableDescribed s table.1 table.2))
      (columnsQueries (.text s) tables) := by
  induction tables generalizing before with
  | nil => exact leads_lift (.ok [])
  | cons table tables ih =>
    have hfirst := leads_fetchTable (htables table List.mem_cons_self)
      (hcolumns table List.mem_cons_self) (by
        have h := hgives [] table.1 table.2 tables rfl
        rwa [columnsQueries, List.map_nil, List.append_nil] at h)
    have hothers : Leads _ (before ++ [columnsQuery (.text s) table.1]) _ _ :=
      ih (fun other hother => htables other (List.mem_cons_of_mem _ hother))
        (fun other hother => hcolumns other (List.mem_cons_of_mem _ hother))
        (fun earlier row rows later hsplit => by
          have h := hgives (table :: earlier) row rows later (by rw [hsplit, List.cons_append])
          rwa [List.append_assoc])
    exact hfirst.bind (hothers.bind_last (leads_lift (.ok _)))

/-- An introspection that is given a usable catalogue finds the schema that this describes. -/
theorem introspect_of_gives {catalogue : Catalogue} (hgives : Gives executor (.text s) catalogue)
    (husable : catalogue.Usable) :
    (introspect executor (.text s)).result = .ok (catalogue.schema s) ∧
      (introspect executor (.text s)).queries = catalogue.queries (.text s) := by
  have htables := (leads_ask_of_ok hgives.tables).bind
    (leads_fetchTablesOf husable.tables husable.columns hgives.columns)
  have henums := leads_fetchEnums hgives.enums
  rw [enumsOfRows_of_usable s husable.enums] at henums
  refine introspect_of_leads
    (htables.bind (henums.bind_last ((leads_report _ _).bind_nil ?_)))
  rw [schemaOf_text]
  exact leads_lift _

end Reading

/-- If every query of its catalogue is answered with usable rows, then the catalogue of an executor
is usable. -/
theorem usable_catalogueOf
    (h : ∀ before query after,
      (catalogueOf executor schemaName).queries schemaName = before ++ query :: after →
        ∀ rows, executor before query = .ok rows → ∀ row ∈ rows, UsableRow row query.stage)
    (hgives : Gives executor schemaName (catalogueOf executor schemaName)) :
    (catalogueOf executor schemaName).Usable where
  tables := by
    intro table htable
    exact h [] (.tables schemaName) _ rfl _ hgives.tables _ (List.mem_map_of_mem htable)
  columns := by
    intro (row, rows) htable
    obtain ⟨earlier, later, hsplit⟩ := List.append_of_mem htable
    exact h _ _ _ (queries_of_tables hsplit) rows (hgives.columns earlier row rows later hsplit)
  enums := by
    intro row hrow
    exact h _ (.enums schemaName) [] rfl _ hgives.enums row hrow

/-- The queries that a usable catalogue answers are about the tables that it describes. -/
theorem queries_eq_queriesFor {catalogue : Catalogue} {s : String} (h : catalogue.Usable) :
    catalogue.queries (.text s) = queriesFor (catalogue.schema s) := by
  have htables : columnsQueries (.text s) catalogue.tables =
      (catalogue.schema s).tables.map columnsOf := by
    rw [columnsQueries, Catalogue.schema, List.map_map]
    exact List.map_congr_left fun table htable => columnsQuery_of_usable (h.tables table htable) _
  rw [Catalogue.queries, htables, queriesFor]
  rfl

/-- An introspection has found a schema. -/
structure Found (executor : Executor) (s : String) (catalogue : Catalogue) (outcome : Outcome) :
    Prop where
  /-- The executor has given the catalogue: the rows of the tables, for each of them the rows of
  its columns, and the rows of the enum types. -/
  given : Gives executor (.text s) catalogue
  /-- The result is the schema that is described, row by row. -/
  result : outcome.result = .ok (catalogue.schema s)
  /-- The queries are those for the rows of the tables, each asked once, in order. -/
  queries : outcome.queries = catalogue.queries (.text s)
  /-- They are about the tables of the schema that was found, by their names. -/
  asked : outcome.queries = queriesFor (catalogue.schema s)

/-- An executor that gives two tables of one name, the first without a schema of its own, and an
enum type. -/
def twoTables : Executor
  | _, .tables _ => .ok [[("table_name", .text "t"), ("table_schema", .text "")],
    [("table_name", .text "t"), ("table_schema", .text "other")]]
  | _, .columns _ schemaName => .ok (if schemaName.isText "other" then [] else [
    [("column_name", .text "id"), ("data_type", .text "integer"), ("udt_name", .null),
      ("is_nullable", .text "NO"), ("column_default", .text ""), ("description", .text "")],
    [("column_name", .text "tags"), ("udt_name", .text "_text"), ("is_nullable", .text "YES"),
      ("description", .text "labels")]])
  | _, .enums _ => .ok [[("typname", .text "mood"), ("enumlabels", .text "\x7bsad,ok\x7d")]]

theorem usable_twoTables (before : List Query) (query : Query) :
    ∃ rows, twoTables before query = .ok rows ∧ ∀ row ∈ rows, UsableRow row query.stage := by
  cases query with
  | tables _ =>
    refine ⟨_, rfl, List.forall_mem_cons.mpr ⟨?_, List.forall_mem_singleton.mpr ?_⟩⟩
    · exact ⟨⟨_, rfl⟩, .inr (.inr ⟨_, rfl⟩)⟩
    · exact ⟨⟨_, rfl⟩, .inr (.inr ⟨_, rfl⟩)⟩
  | columns _ schemaName =>
    refine ⟨_, rfl, ?_⟩
    split
    · exact nofun
    · refine List.forall_mem_cons.mpr ⟨?_, List.forall_mem_singleton.mpr ?_⟩
      · exact ⟨⟨_, rfl⟩, .inr (.inl rfl), fun _ => ⟨_, rfl⟩, ⟨_, rfl⟩, .inr (.inr ⟨_, rfl⟩),
          .inr (.inr ⟨_, rfl⟩)⟩
      · exact ⟨⟨_, rfl⟩, .inr (.inr ⟨_, rfl⟩), nofun, ⟨_, rfl⟩, .inl rfl, .inr (.inr ⟨_, rfl⟩)⟩
  | enums _ => exact ⟨_, rfl, List.forall_mem_singleton.mpr ⟨⟨_, rfl⟩, .inl rfl⟩⟩

/-- **An introspection is faithful.** If every query of it is answered, and with usable rows, then
it asks for the tables, once for the columns of each table, in order, and for the enum types; and
it finds the schema that the answers describe. -/
theorem introspect_of_answered (executor : Executor) (s : String)
    (h : ∀ before query after,
      (catalogueOf executor (.text s)).queries (.text s) = before ++ query :: after →
        ∃ rows, executor before query = .ok rows ∧ ∀ row ∈ rows, UsableRow row query.stage) :
    Found executor s (catalogueOf executor (.text s)) (introspect executor (.text s)) := by
  have hgives := gives_catalogueOf fun before query after hsplit =>
    (h before query after hsplit).imp fun _ hrows => hrows.1
  have husable := usable_catalogueOf (fun before query after hsplit rows hrows => by
    obtain ⟨rows', hrows', hrow⟩ := h before query after hsplit
    rw [hrows] at hrows'
    cases hrows'
    exact hrow) hgives
  obtain ⟨hresult, hqueries⟩ := introspect_of_gives hgives husable
  exact ⟨hgives, hresult, hqueries, hqueries.trans (queries_eq_queriesFor husable)⟩

/-- The second table keeps its schema, and with it its columns: there are none. -/
theorem introspect_twoTables :
    (∀ before query after,
      (catalogueOf twoTables (.text "app")).queries (.text "app") = before ++ query :: after →
        ∃ rows, twoTables before query = .ok rows ∧ ∀ row ∈ rows, UsableRow row query.stage) ∧
      (introspect twoTables (.text "app")).result = .ok
        ⟨"app", [⟨"t", "app", [⟨"id", "integer", false, some "", none⟩,
          ⟨"tags", "_text", true, none, some "labels"⟩]⟩, ⟨"t", "other", []⟩],
          [⟨"mood", "app", ["sad", "ok"]⟩]⟩ := by
  have husable := fun before query after
    (_ : (catalogueOf twoTables (.text "app")).queries (.text "app") = before ++ query :: after) =>
      usable_twoTables before query
  have hfound := introspect_of_answered twoTables "app" husable
  refine ⟨husable, hfound.result.trans ?_⟩
  rfl

end Introspection
end SchemaTypes

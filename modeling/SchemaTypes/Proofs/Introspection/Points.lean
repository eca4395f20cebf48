import SchemaTypes.Proofs.Introspection.Catalogue

/-!
# Where an introspection may end

An introspection can fail at a query, and at a row that is answered to one. The places where it can
do so lie behind each other in one list, which the catalogue of an executor determines
(`Catalogue.points`). For a table, the name that its row has to have, the query for its columns, the
rows of these and the record that is made at the end follow upon each other.

The list is reached up to the first place where something is wrong. What has been asked before a
query is not found out by a run: it is what is asked at the points before (`Chained`).
-/

namespace SchemaTypes
namespace Introspection

/-- A place where an introspection may end early. -/
inductive Point where
  /-- A query, asked after others. -/
  | ask (before : List Query) (query : Query)
  /-- The name of a table in a row. -/
  | name (row : Row)
  /-- A row as a column. -/
  | column (row : Row)
  /-- The table of a row, when its columns are there. -/
  | table (row : Row)
  /-- A row as an enum type. -/
  | enum (row : Row)
  /-- The schema, when everything is there. -/
  | schema

/-- The error that a result is. -/
def errorOf {α : Type} : Except Error α → Option Error
  | .ok _ => none
  | .error error => some error

namespace Point

/-- The query that is issued at a point. -/
def query? : Point → Option Query
  | .ask _ query => some query
  | _ => none

/-- The row that is used at a point. The schema is made from no row. -/
def row : Point → Row
  | .name row | .column row | .table row | .enum row => row
  | .ask _ _ | .schema => []

/-- What is wrong at a point. Whether a table or a schema can be made is a matter of its name alone,
so it does not matter which columns and tables are there. -/
def fault (executor : Executor) (schemaName : Value) : Point → Option Error
  | .ask before query => errorOf ((executor before query).mapError query.failure)
  | .name row => errorOf (Introspection.column row "table_name")
  | .column row => errorOf (columnOfRow row)
  | .table row =>
    errorOf (tableOf (column? row "table_name") (orElse (column? row "table_schema") schemaName) [])
  | .enum row => errorOf (enumOfRow schemaName row)
  | .schema => errorOf (schemaOf schemaName [] [])

end Point

/-- The queries that are issued at points. -/
def issued (points : List Point) : List Query :=
  points.filterMap Point.query?

/-- The points of tables, behind some queries. -/
def tablePoints (schemaName : Value) : List Query → List (Row × List Row) → List Point
  | _, [] => []
  | before, (row, rows) :: rest =>
    let query := columnsQuery schemaName row
    .name row :: .ask before query :: rows.map .column ++
      .table row :: tablePoints schemaName (before ++ [query]) rest

/-- The points of an introspection that is given a catalogue. -/
def Catalogue.points (schemaName : Value) (catalogue : Catalogue) : List Point :=
  .ask [] (.tables schemaName) ::
    tablePoints schemaName [.tables schemaName] catalogue.tables ++
    .ask (.tables schemaName :: columnsQueries schemaName catalogue.tables) (.enums schemaName) ::
    catalogue.enums.map .enum ++ [.schema]

/-! ## Up to the first fault -/

/-- The points up to the first one where something is wrong, and this one too. -/
def reached (fault : Point → Option Error) : List Point → List Point
  | [] => []
  | point :: rest => if (fault point).isSome then [point] else point :: reached fault rest

section Reached

variable {fault : Point → Option Error} {points others : List Point} {error : Error}

theorem issued_append (points others : List Point) :
    issued (points ++ others) = issued points ++ issued others :=
  List.filterMap_append

theorem reached_isPrefix (fault : Point → Option Error) (points : List Point) :
    reached fault points <+: points := by
  induction points with
  | nil => exact List.prefix_rfl
  | cons point points ih =>
    rw [reached]
    split
    · exact List.prefix_cons_inj point |>.mpr List.nil_prefix
    · exact List.prefix_cons_inj point |>.mpr ih

/-- Points without a fault are passed. -/
theorem reached_append_of_none (h : points.findSome? fault = none) :
    reached fault (points ++ others) = points ++ reached fault others := by
  induction points with
  | nil => rfl
  | cons point points ih =>
    rw [List.findSome?_cons] at h
    cases hpoint : fault point with
    | none =>
      rw [hpoint] at h
      rw [List.cons_append, reached, hpoint, ih h]
      rfl
    | some error =>
      rw [hpoint] at h
      cases h

theorem reached_eq_self (h : points.findSome? fault = none) : reached fault points = points := by
  have happend : reached fault (points ++ []) = points ++ reached fault [] :=
    reached_append_of_none h
  rwa [List.append_nil, reached, List.append_nil] at happend

theorem reached_singleton (fault : Point → Option Error) (point : Point) :
    reached fault [point] = [point] := by
  rw [reached]
  split <;> rfl

/-- What lies behind a fault is not reached. -/
theorem reached_append_of_some (h : points.findSome? fault = some error) :
    reached fault (points ++ others) = reached fault points := by
  induction points with
  | nil => cases h
  | cons point points ih =>
    rw [List.cons_append, reached, reached]
    split
    · rfl
    · next hpoint =>
      rw [List.findSome?_cons, Option.not_isSome_iff_eq_none.mp hpoint] at h
      rw [ih h]

/-- Points up to a fault, without another one before it, are the points that are reached. -/
theorem reached_of_fault {point : Point} (h : points.findSome? fault = none)
    (hpoint : fault point = some error) :
    reached fault (points ++ point :: others) = points ++ [point] := by
  rw [reached_append_of_none h, reached, hpoint]
  rfl

/-- A fault that is reached is the first one, and the last point that is reached. -/
theorem eq_nil_of_reached {point : Point} {rest : List Point}
    (h : reached fault points = others ++ point :: rest) (hpoint : fault point ≠ none) :
    rest = [] ∧ others.findSome? fault = none := by
  induction points generalizing others with
  | nil =>
    rw [reached] at h
    cases others <;> cases h
  | cons first points ih =>
    rw [reached] at h
    cases others with
    | nil =>
      refine ⟨?_, rfl⟩
      split at h
      · exact (List.cons.inj h).2.symm
      · next hfirst =>
        have hsame := (List.cons.inj h).1
        rw [hsame] at hfirst
        exact absurd (Option.not_isSome_iff_eq_none.mp hfirst) hpoint
    | cons other others =>
      split at h
      · have hrest := (List.cons.inj h).2
        cases others <;> cases hrest
      · next hfirst =>
        obtain ⟨hsame, hrest⟩ := List.cons.inj h
        obtain ⟨hnil, hnone⟩ := ih hrest
        rw [hsame] at hfirst
        refine ⟨hnil, ?_⟩
        rw [List.findSome?_cons, Option.not_isSome_iff_eq_none.mp hfirst]
        exact hnone

end Reached

/-! ## Queries of points -/

/-- The queries that stand at points as asked before are those of the points before. -/
def Chained : List Query → List Point → Prop
  | _, [] => True
  | before, point :: rest =>
    (∀ earlier query, point = .ask earlier query → earlier = before) ∧
      Chained (before ++ point.query?.toList) rest

section Chained

variable {before : List Query} {points others : List Point}

theorem issued_cons (point : Point) (points : List Point) :
    issued (point :: points) = point.query?.toList ++ issued points := by
  cases point <;> rfl

theorem chained_append :
    Chained before (points ++ others) ↔
      Chained before points ∧ Chained (before ++ issued points) others := by
  induction points generalizing before with
  | nil =>
    rw [List.nil_append, show issued [] = [] from rfl, List.append_nil]
    exact ⟨fun h => ⟨trivial, h⟩, fun h => h.2⟩
  | cons point points ih =>
    rw [List.cons_append, Chained, Chained, ih, issued_cons, List.append_assoc, and_assoc]

/-- Where nothing is asked, nothing has to be said about it. -/
theorem chained_map {point : Row → Point} (h : ∀ row, (point row).query? = none)
    (rows : List Row) : Chained before (rows.map point) := by
  induction rows generalizing before with
  | nil => trivial
  | cons row rows ih =>
    refine ⟨fun earlier query hpoint => ?_, ih⟩
    have hnone := h row
    rw [hpoint] at hnone
    cases hnone

/-- A query that is issued belongs to a point. -/
theorem exists_point_of_issued {query : Query} {after : List Query}
    (h : issued points = before ++ query :: after) :
    ∃ passed earlier rest, points = passed ++ .ask earlier query :: rest ∧
      issued passed = before ∧ issued rest = after := by
  obtain ⟨front, back, hpoints, hfront, hback⟩ := List.filterMap_eq_append_iff.mp h
  obtain ⟨silent, point, rest, hsplit, hsilent, hpoint, hrest⟩ :=
    List.filterMap_eq_cons_iff.mp hback
  cases point with
  | ask earlier asked =>
    cases hpoint
    refine ⟨front ++ silent, earlier, rest, ?_, ?_, hrest⟩
    · rw [hpoints, hsplit, List.append_assoc]
    · rw [issued_append, show issued silent = [] from List.filterMap_eq_nil_iff.mpr hsilent,
        List.append_nil]
      exact hfront
  | _ => cases hpoint

end Chained

section Tables

variable {schemaName : Value}

theorem issued_map_of_query?_eq_none {point : Row → Point} (h : ∀ row, (point row).query? = none)
    (rows : List Row) : issued (rows.map point) = [] := by
  rw [issued, List.filterMap_map, List.filterMap_eq_nil_iff]
  exact fun row _ => h row

/-- At the points of a table, one query is issued. -/
theorem issued_tablePoints_singleton (before : List Query) (row : Row) (rows : List Row)
    (query : Query) :
    issued (.name row :: .ask before query :: rows.map .column ++ [.table row]) = [query] := by
  have hcolumns : issued (rows.map .column) = [] :=
    issued_map_of_query?_eq_none (fun _ => rfl) rows
  rw [issued_append]
  show query :: issued (rows.map .column) ++ [] = [query]
  rw [hcolumns, List.append_nil]

theorem issued_tablePoints (before : List Query) (tables : List (Row × List Row)) :
    issued (tablePoints schemaName before tables) = columnsQueries schemaName tables := by
  induction tables generalizing before with
  | nil => rfl
  | cons table tables ih =>
    rw [tablePoints, List.append_cons, issued_append, issued_tablePoints_singleton, ih]
    rfl

theorem chained_tablePoints (before : List Query) (tables : List (Row × List Row)) :
    Chained before (tablePoints schemaName before tables) := by
  induction tables generalizing before with
  | nil => trivial
  | cons table tables ih =>
    rw [tablePoints, List.append_cons, chained_append, issued_tablePoints_singleton]
    refine ⟨chained_append.mpr ⟨⟨nofun, ?_, chained_map (fun _ => rfl) _⟩, nofun, trivial⟩, ih _⟩
    rintro _ _ ⟨⟩
    exact (List.append_nil before).symm

theorem issued_tables (tables : List (Row × List Row)) :
    issued (.ask [] (.tables schemaName) :: tablePoints schemaName [.tables schemaName] tables) =
      .tables schemaName :: columnsQueries schemaName tables := by
  rw [← List.singleton_append, issued_append, issued_tablePoints]
  rfl

/-- The points of a catalogue issue its queries. -/
theorem issued_points (schemaName : Value) (catalogue : Catalogue) :
    issued (catalogue.points schemaName) = catalogue.queries schemaName := by
  have henums : issued (catalogue.enums.map .enum) = [] :=
    issued_map_of_query?_eq_none (fun _ => rfl) _
  rw [Catalogue.points, issued_append, issued_append, issued_tables, issued_cons, henums]
  exact List.append_nil _

theorem chained_points (schemaName : Value) (catalogue : Catalogue) :
    Chained [] (catalogue.points schemaName) := by
  rw [Catalogue.points, chained_append, chained_append, issued_tables]
  refine ⟨⟨⟨?_, chained_tablePoints _ _⟩, ?_, chained_map (fun _ => rfl) _⟩, nofun, trivial⟩
  · rintro _ _ ⟨⟩
    rfl
  · rintro _ _ ⟨⟩
    rfl

/-- What stands at a point as asked before is what is asked at the points before. -/
theorem earlier_eq_issued {schemaName : Value} {catalogue : Catalogue} {passed rest : List Point}
    {earlier : List Query} {query : Query}
    (h : catalogue.points schemaName = passed ++ .ask earlier query :: rest) :
    earlier = issued passed := by
  have hchained := chained_points schemaName catalogue
  rw [h] at hchained
  exact (chained_append.mp hchained).2.1 earlier query rfl

end Tables

end Introspection
end SchemaTypes

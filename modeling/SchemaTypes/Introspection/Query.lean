import SchemaTypes.Value

/-!
# Catalogue queries

Introspection asks the catalogue three kinds of questions: which base tables a schema has, which
columns a table has, and which enum types a schema has. An executor answers a question with rows
or with a failure. It may take the questions asked before into account, so it is a function of
them too; apart from that nothing is assumed about it, and in particular not that rows are well
formed.

What can go wrong at the other side is a failure: connecting, running a query or closing a
connection fails with a kind and a text. The kinds that the database driver itself raises form a
family of their own; only those are forgiven when a connection is closed.
-/

namespace SchemaTypes

/-- The kinds of failures. -/
inductive FailureKind where
  | connection
  | runtime
  | value
  | timeout
  | executor
  | operational
  | interface
  | programming
deriving Repr, DecidableEq

/-- Whether a kind belongs to the database driver's own family. -/
def FailureKind.isDriverError : FailureKind → Bool
  | .operational | .interface | .programming => true
  | .connection | .runtime | .value | .timeout | .executor => false

/-- A failure with its text. -/
structure Failure where
  kind : FailureKind
  message : String
deriving Repr, DecidableEq

namespace Introspection

/-- The kinds of catalogue queries. -/
inductive Stage where
  | tables
  | columns
  | enums
deriving Repr, DecidableEq

/-- The name of a kind of query. -/
def Stage.name : Stage → String
  | .tables => "TABLES"
  | .columns => "COLUMNS"
  | .enums => "ENUMS"

/-- The name of a kind of query as messages spell it. -/
def Stage.word : Stage → String
  | .tables => "tables"
  | .columns => "columns"
  | .enums => "enums"

/-- The query for the base tables of a schema, by name. -/
def tablesSql : String := "
SELECT
    t.table_name,
    t.table_schema
FROM information_schema.tables t
WHERE t.table_schema = %s
  AND t.table_type = 'BASE TABLE'
ORDER BY t.table_name
"

/-- The query for the columns of a table, by position. -/
def columnsSql : String := "
SELECT
    c.column_name,
    c.data_type,
    c.udt_name,
    c.is_nullable,
    c.column_default,
    pgd.description
FROM information_schema.columns c
LEFT JOIN pg_catalog.pg_statio_all_tables st
    ON st.schemaname = c.table_schema
    AND st.relname = c.table_name
LEFT JOIN pg_catalog.pg_description pgd
    ON pgd.objoid = st.relid
    AND pgd.objsubid = c.ordinal_position
WHERE c.table_name = %s
  AND c.table_schema = %s
ORDER BY c.ordinal_position
"

/-- The query for the enum types of a schema with their labels in sort order, by name. -/
def enumsSql : String := "
SELECT
    t.typname,
    n.nspname,
    COALESCE(
        array_agg(e.enumlabel::text ORDER BY e.enumsortorder)
            FILTER (WHERE e.enumlabel IS NOT NULL),
        '\x7b\x7d'::text[]
    ) AS enumlabels
FROM pg_catalog.pg_type t
JOIN pg_catalog.pg_namespace n ON n.oid = t.typnamespace
LEFT JOIN pg_catalog.pg_enum e ON t.oid = e.enumtypid
WHERE n.nspname = %s
  AND t.typtype = 'e'
GROUP BY t.typname, n.nspname
ORDER BY t.typname
"

/-- The text of the query of a kind. -/
def Stage.sql : Stage → String
  | .tables => tablesSql
  | .columns => columnsSql
  | .enums => enumsSql

/-- A query with its parameters. The table and schema of a column query come from a row, and the
schema of the other two from whoever asks, so they may be any values. -/
inductive Query where
  | tables (schemaName : Value)
  | columns (tableName schemaName : Value)
  | enums (schemaName : Value)
deriving Repr

namespace Query

/-- The kind of a query. -/
def stage : Query → Stage
  | .tables _ => .tables
  | .columns _ _ => .columns
  | .enums _ => .enums

/-- The parameters in their order. -/
def parameters : Query → List Value
  | .tables schemaName => [schemaName]
  | .columns tableName schemaName => [tableName, schemaName]
  | .enums schemaName => [schemaName]

/-- The schema that a query is about. -/
def schemaName : Query → Value
  | .tables schemaName => schemaName
  | .columns _ schemaName => schemaName
  | .enums schemaName => schemaName

/-- The table that a query is about; null for a query about a whole schema. -/
def tableName : Query → Value
  | .columns tableName _ => tableName
  | _ => .null

end Query

/-- A row: values by column label. -/
abbrev Row := List (String × Value)

/-- What an executor answers to a query, given the queries asked before it. -/
abbrev Executor := List Query → Query → Except Failure (List Row)

end Introspection
end SchemaTypes

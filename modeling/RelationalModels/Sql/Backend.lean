import RelationalModels.Service.Failure
import RelationalModels.Sql.Acceptance
import RelationalModels.Sql.Select

/-!
# The database

A database with the tables created in it. Every statement needs a connection, which may fail; a
failed connection leaves everything else as it was. A statement that creates a table is sent only
when no table of that name exists, in any case of ASCII letters, and may be refused. Some tables
exist without having been created.
-/

namespace RelationalModels.Sql

inductive Sent where
  | create (sql : String)
  | query (statement : Statement)
  deriving DecidableEq

/-- The database as it answers: connections to come, tables, rows, and a log of what reached it. -/
structure Backend where
  /-- How the next connections fail, one after the other; those beyond the list succeed. -/
  faults : List (Option Failure) := []
  tables : List String := []
  rows : List Value := []
  attempts : Nat := 0
  sent : List Sent := []
  deriving DecidableEq, Inhabited

/-- The tables that every database has, beside one for each of `reportTopics`. -/
def catalogTables : List String :=
  ["sqlite_master", "sqlite_schema", "sqlite_temp_master", "sqlite_temp_schema", "sqlite_stmt",
   "json_each", "json_tree", "dbstat", "fts3tokenize"]

def reportTopics : List String :=
  ["analysis_limit", "application_id", "auto_vacuum", "automatic_index", "busy_timeout",
   "cache_size", "cache_spill", "cell_size_check", "checkpoint_fullfsync", "collation_list",
   "compile_options", "count_changes", "data_version", "database_list", "default_cache_size",
   "defer_foreign_keys", "empty_result_callbacks", "encoding", "foreign_key_check",
   "foreign_key_list", "foreign_keys", "freelist_count", "full_column_names", "fullfsync",
   "function_list", "hard_heap_limit", "ignore_check_constraints", "index_info", "index_list",
   "index_xinfo", "integrity_check", "journal_mode", "journal_size_limit", "legacy_alter_table",
   "locking_mode", "max_page_count", "module_list", "optimize", "page_count", "page_size",
   "pragma_list", "query_only", "quick_check", "read_uncommitted", "recursive_triggers",
   "reverse_unordered_selects", "schema_version", "secure_delete", "short_column_names",
   "soft_heap_limit", "synchronous", "table_info", "table_list", "table_xinfo", "temp_store",
   "threads", "trusted_schema", "user_version", "writable_schema"]

def givenTables : List String := catalogTables ++ reportTopics.map fun topic => "pragma_" ++ topic

/-- The table that cannot even be asked for. -/
def brokenTable : String := "fts4aux"

namespace Backend

def connect (b : Backend) : Option Failure × Backend :=
  let after := { b with attempts := b.attempts + 1, faults := b.faults.drop 1 }
  match b.faults with
  | some f :: _ => (some f, after)
  | _ => (none, after)

def hasTable (b : Backend) (name : String) : Except SqlError Bool :=
  if name.toList.contains '\x00' then .error .unreadableStatement
  else if Text.eqIgnoringAsciiCase name brokenTable then .error (.operational false "refused")
  else .ok ((givenTables ++ b.tables).any (Text.eqIgnoringAsciiCase name))

def sendCreate (table : SqlTable) (reg : Registry) (sql : String) (b : Backend) :
    Except SqlError Unit × Backend :=
  let after := { b with sent := b.sent ++ [.create sql] }
  if sql.toList.contains '\x00' then (.error .unreadableStatement, after)
  else if table.isRefused reg b.tables then (.error (.operational false "refused"), after)
  else (.ok (), { after with tables := b.tables ++ [nameInDatabase table.name] })

def createConnected (table : SqlTable) (reg : Registry) (b : Backend) :
    Except SqlError Unit × Backend :=
  -- the name is measured before it is looked up, also for a table that exists
  if maxIdentifierLength < table.name.length then (.error (.overlongIdentifier table.name), b)
  else
    match b.hasTable table.name with
    | .error e => (.error e, b)
    | .ok true => (.ok (), b)
    | .ok false =>
      match table.createStatement reg with
      | .error e => (.error e, b)
      | .ok sql => b.sendCreate table reg sql

def createOnce (table : SqlTable) (reg : Registry) (b : Backend) : Except Failure Unit × Backend :=
  match b.connect with
  | (some f, b) => (.error f, b)
  | (none, b) =>
    match b.createConnected table reg with
    | (.error e, b) => (.error (.sql e), b)
    | (.ok (), b) => (.ok (), b)

def queryOnce (s : Statement) (b : Backend) : Except Failure (List Value) × Backend :=
  match b.connect with
  | (some f, b) => (.error f, b)
  | (none, b) => (.ok b.rows, { b with sent := b.sent ++ [.query s] })

end Backend

end RelationalModels.Sql

/-
**The tables that every database has.**

The table that holds the schema itself has several names.  Other tables are there without being
made: their rows are computed when they are asked for.  None of them is listed among the tables; a
table that is made hides a computed one of the same name.
-/

import Conform.Sqlite.Database

set_option relaxedAutoImplicit false
set_option autoImplicit false

namespace Conform

namespace Sqlite

namespace Builtin

def schemaNames : List String :=
  ["sqlite_master", "sqlite_schema", "sqlite_temp_master", "sqlite_temp_schema"]

def schemaColumns : List Column :=
  [.ofType "TEXT" "type", .ofType "TEXT" "name", .ofType "TEXT" "tbl_name",
    .ofType "INT" "rootpage", .ofType "TEXT" "sql"]

/-- The settings of a database, each of which is also a table with one column of the same name. -/
def settings : List String :=
  ["analysis_limit", "application_id", "auto_vacuum", "automatic_index", "cache_size",
    "cache_spill", "cell_size_check", "checkpoint_fullfsync", "compile_options", "count_changes",
    "data_version", "defer_foreign_keys", "empty_result_callbacks", "encoding", "foreign_keys",
    "freelist_count", "full_column_names", "fullfsync", "hard_heap_limit",
    "ignore_check_constraints", "integrity_check", "journal_mode", "journal_size_limit",
    "legacy_alter_table", "locking_mode", "max_page_count", "optimize", "page_count",
    "page_size", "query_only", "quick_check", "read_uncommitted", "recursive_triggers",
    "reverse_unordered_selects", "schema_version", "secure_delete", "short_column_names",
    "soft_heap_limit", "synchronous", "temp_store", "threads", "trusted_schema", "user_version",
    "writable_schema"]

def accounts : List (String × List String) :=
  [("busy_timeout", ["timeout"]),
    ("collation_list", ["seq", "name"]),
    ("database_list", ["seq", "name", "file"]),
    ("default_cache_size", ["cache_size"]),
    ("foreign_key_check", ["table", "rowid", "parent", "fkid"]),
    ("foreign_key_list", ["id", "seq", "table", "from", "to", "on_update", "on_delete",
      "match"]),
    ("function_list", ["name", "builtin", "type", "enc", "narg", "flags"]),
    ("index_info", ["seqno", "cid", "name"]),
    ("index_list", ["seq", "name", "unique", "origin", "partial"]),
    ("index_xinfo", ["seqno", "cid", "name", "desc", "coll", "key"]),
    ("module_list", ["name"]),
    ("pragma_list", ["name"]),
    ("table_info", ["cid", "name", "type", "notnull", "dflt_value", "pk"]),
    ("table_list", ["schema", "name", "type", "ncol", "wr", "strict"]),
    ("table_xinfo", ["cid", "name", "type", "notnull", "dflt_value", "pk", "hidden"])]

def computations : List (String × List String) :=
  [("json_each", ["key", "value", "type", "atom", "id", "parent", "fullkey", "path"]),
    ("json_tree", ["key", "value", "type", "atom", "id", "parent", "fullkey", "path"]),
    ("fts3tokenize", ["input", "token", "start", "end", "position"])]

def spaceColumns : List Column :=
  [.ofType "TEXT" "name", .ofType "TEXT" "path", .ofType "INTEGER" "pageno",
    .ofType "TEXT" "pagetype", .ofType "INTEGER" "ncell", .ofType "INTEGER" "payload",
    .ofType "INTEGER" "unused", .ofType "INTEGER" "mx_payload", .ofType "INTEGER" "pgoffset",
    .ofType "INTEGER" "pgsize"]

def tables : List (String × List Column) :=
  schemaNames.map (·, schemaColumns) ++ [("dbstat", spaceColumns)] ++
    (computations.map fun t => (t.1, t.2.map (Column.ofType ""))) ++
    (accounts.map fun t => ("pragma_" ++ t.1, t.2.map (Column.ofType ""))) ++
    settings.map fun name => ("pragma_" ++ name, [.ofType "" name])

/-- **The columns of a table that every database has**, if there is one of that name. -/
def columns? (name : String) : Option (List Column) :=
  (tables.find? fun t => sameName t.1 name).map (·.2)

/-- A table whose columns cannot be told. -/
def failing : String := "fts4aux"

def columnSource : List String := ["pragma_table_info"]

def indexSource : List String := ["pragma_index_list", "pragma_index_info"]

end Builtin

end Sqlite

end Conform

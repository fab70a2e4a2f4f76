/-
**The functions that there are.**

A function has a name, numbers of arguments that it takes, and a constancy: whether its value
follows from its arguments.  Functions of many rows are not listed; they have no value for one
row.
-/

import Conform.Sqlite.Database

set_option relaxedAutoImplicit false
set_option autoImplicit false

namespace Conform

namespace Sqlite

inductive Constancy
  /-- The value follows from the arguments. -/
  | always
  /-- The value is the same as long as a statement runs. -/
  | statement
  | never
  deriving DecidableEq, Repr

/-- **Some functions** that take the same numbers of arguments. -/
structure Function where
  constancy : Constancy
  least : Nat
  most : Nat
  names : List String
  deriving DecidableEq, Repr

namespace Function

def argumentLimit : Nat := 127

def ofFew : List Function :=
  [⟨.statement, 0, 0, ["current_date", "current_time", "current_timestamp", "sqlite_source_id",
      "sqlite_version"]⟩,
    ⟨.statement, 1, 1, ["sqlite_compileoption_get", "sqlite_compileoption_used"]⟩,
    ⟨.never, 0, 0, ["changes", "fts5_source_id", "last_insert_rowid", "random", "total_changes"]⟩,
    ⟨.never, 1, 1, ["fts5", "offsets", "optimize", "randomblob", "rtreedepth"]⟩,
    ⟨.never, 1, 2, ["fts3_tokenizer", "load_extension", "matchinfo"]⟩,
    ⟨.never, 2, 2, ["match", "rtreenode"]⟩,
    ⟨.always, 1, 1, ["abs", "hex", "json", "json_error_position", "json_quote", "jsonb", "length",
      "likely", "lower", "octet_length", "quote", "sign", "soundex", "subtype", "typeof", "unicode",
      "unlikely", "upper", "zeroblob"]⟩,
    ⟨.always, 1, 2, ["json_array_length", "json_pretty", "json_type", "json_valid", "ltrim",
      "round", "rtrim", "trim", "unhex"]⟩,
    ⟨.always, 2, 2, ["->", "->>", "glob", "ifnull", "instr", "json_patch", "jsonb_patch",
      "likelihood", "nullif", "sqlite_log", "timediff"]⟩,
    ⟨.always, 2, 3, ["like", "substr", "substring"]⟩,
    ⟨.always, 3, 3, ["iif", "replace"]⟩]

def ofMany : List Function :=
  [⟨.always, 0, argumentLimit, ["char", "date", "datetime", "format", "json_array", "json_extract",
      "json_insert", "json_object", "json_remove", "json_replace", "json_set", "jsonb_array",
      "jsonb_extract", "jsonb_insert", "jsonb_object", "jsonb_remove", "jsonb_replace",
      "jsonb_set", "julianday", "printf", "strftime", "time", "unixepoch"]⟩,
    ⟨.always, 1, argumentLimit, ["concat"]⟩,
    ⟨.always, 2, argumentLimit, ["coalesce", "concat_ws", "max", "min"]⟩,
    ⟨.never, 0, argumentLimit, ["bm25", "highlight", "rtreecheck", "snippet"]⟩]

/-- **The function with a name and a number of arguments.** -/
def find? (name : String) (arguments : Nat) : Option Function :=
  (ofFew ++ ofMany).find? fun f =>
    f.least ≤ arguments && arguments ≤ f.most && f.names.any (sameName name)

end Function

end Sqlite

end Conform

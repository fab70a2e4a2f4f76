/-
**Databases kept as scripts.**

Between runs a database is kept as the statements that make it, each with a semicolon after it.  The
table of sequences, which no statement can make, is written by its name alone.
-/

import Conform.Sqlite.Command

set_option relaxedAutoImplicit false
set_option autoImplicit false

namespace Conform

namespace Sqlite

open Sql

namespace Database

/-! ### Writing -/

def columnLayout (c : Column) : Layout :=
  [name c.name, space, .verbatim (c.type.getD "")] ++ (if c.notNull then [space, word "NOT", space,
    word "NULL"] else []) ++
    match c.default with
    | none => []
    | some value => [space, word "DEFAULT", space, .verbatim value]

/-- The statement that makes a table.  Only a table of the database itself has a reserved name. -/
def tableLayout (t : Table) : Layout :=
  words ["CREATE", "TABLE"] ++ [name t.name] ++
    if isReserved t.name then []
    else [space, mark '('] ++ [mark ',', space].intercalate (t.columns.map columnLayout) ++
      [mark ')']

def partLayout : KeyPart → Layout
  | .column key => [name key]
  | .lowered key => [word "lower", mark '(', name key, mark ')']

def indexLayout (i : Index) : Layout :=
  words ["CREATE"] ++ (if i.unique then words ["UNIQUE"] else []) ++ words ["INDEX"] ++
    [name i.name, space] ++ words ["ON"] ++ [name i.table, space, mark '('] ++
    [mark ',', space].intercalate (i.parts.map partLayout) ++ [mark ')']

/-- **The statements that make a database**, oldest first. -/
def script (db : Database) : String :=
  Sql.write .sqlite
    ((db.tables.reverse.map tableLayout ++ db.indexes.reverse.map indexLayout).flatMap
      fun l => l ++ [mark ';', .gap "\n"])

/-! ### Reading -/

/-- The statements in a list of tokens, given the one that is being read, last token first. -/
def statementsFrom : List Token → List Token → List (List Token)
  | read, [] => if read.isEmpty then [] else [read.reverse]
  | read, t :: ts =>
      if t = .mark ';' then read.reverse :: statementsFrom [] ts
      else statementsFrom (t :: read) ts

def runTokens (db : Database) (ts : List Token) : Except SchemaError Database :=
  if ts = [.word "CREATE", .word "TABLE", .name sequences.name] then .ok db.withSequences
  else match Command.ofTokens? ts with
  | none => .error .unreadable
  | some c => c.run db

def runAll (db : Database) (statements : List (List Token)) : Except SchemaError Database :=
  statements.foldlM runTokens db

/-- **The database that a script makes.** -/
def ofScript (text : String) : Except SchemaError Database :=
  match scan .sqlite text with
  | none => .error .unreadable
  | some ts => runAll .empty (statementsFrom [] ts)

end Database

end Sqlite

end Conform

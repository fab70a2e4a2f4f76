/-
**Reading SQLite statements.**

The statements that change a schema are read from their tokens: new tables, new columns, and
indexes made and dropped.  Types and defaults are kept as they were written.
-/

import Conform.Sql.Token
import Conform.Sqlite.Database

set_option relaxedAutoImplicit false
set_option autoImplicit false

namespace Conform

namespace Sqlite

open Sql

/-- **A statement that was understood.** -/
inductive Command
  /-- A new table, whether it numbers its rows, and what can be added to it. -/
  | createTable (table : String) (columns : List Column) (numbered : Bool) (growth : Growth)
  | addColumn (table : String) (column : Column)
  | createIndex (index : String) (unique : Bool) (table : String) (parts : List KeyPart)
  | dropIndex (index : String)
  | dropTable (table : String)
  deriving DecidableEq, Repr

namespace Command

/-! ### Columns -/

def literalText (s : String) : String := String.ofList (quoteLiteral .sqlite s.toList)

/-- The type that comes next, as it was written, and the tokens after it. -/
def readType : List Token → Option (String × List Token)
  | .word w :: .mark '(' :: .word n :: .mark ')' :: ts => some (s!"{w}({n})", ts)
  | .word w :: ts => some (w, ts)
  | _ => none

def readValue : List Token → Option (String × List Token)
  | .mark '-' :: .word w :: ts => some ("-" ++ w, ts)
  | .word w :: ts => some (w, ts)
  | .literal s :: ts => some (literalText s, ts)
  | _ => none

def readConstraint (c : Column) : List Token → Option (Column × List Token)
  | .word w :: ts =>
      if w = "NOT" then
        match ts with
        | .word v :: ts => if v = "NULL" then some ({ c with notNull := true }, ts) else none
        | _ => none
      else if w = "NULL" ∨ w = "AUTOINCREMENT" then some (c, ts)
      else if w = "PRIMARY" then
        match ts with
        | .word v :: ts => if v = "KEY" then some (c, ts) else none
        | _ => none
      else if w = "DEFAULT" then
        (readValue ts).map fun r => ({ c with default := some r.1 }, r.2)
      else none
  | _ => none

def readConstraints : Nat → Column → List Token → Column × List Token
  | 0, c, ts => (c, ts)
  | n + 1, c, ts =>
      match readConstraint c ts with
      | none => (c, ts)
      | some (c, ts) => readConstraints n c ts

def readColumn : List Token → Option (Column × List Token)
  | .name name :: ts =>
      (readType ts).map fun r => readConstraints r.2.length (.ofType r.1 name) r.2
  | _ => none

/-- The columns up to the parenthesis that closes them, at most `n` of them; nothing follows. -/
def readColumns : Nat → List Token → Option (List Column)
  | 0, _ => none
  | n + 1, ts =>
      match readColumn ts with
      | some (c, [.mark ')']) => some [c]
      | some (c, .mark ',' :: ts) => (readColumns n ts).map (c :: ·)
      | _ => none

/-! ### Statements -/

/-- The rest of a statement that makes a table.  It numbers its rows if one of its columns says
so. -/
def readCreateTable : List Token → Option Command
  | .name table :: .mark '(' :: ts =>
      (readColumns ts.length ts).map fun columns =>
        .createTable table columns (ts.contains (.word "AUTOINCREMENT")) .free
  | _ => none

def readCreateIndex : List Token → Option Command
  | [.name index, .word on, .name table, .mark '(', .name column, .mark ')'] =>
      if on = "ON" then some (.createIndex index false table [.column column]) else none
  | _ => none

def readAlterTable : List Token → Option Command
  | .name table :: .word add :: .word column :: ts =>
      if add = "ADD" ∧ column = "COLUMN" then
        match readColumn ts with
        | some (c, []) => some (.addColumn table c)
        | _ => none
      else none
  | _ => none

def readDropIndex : List Token → Option Command
  | [.name index] => some (.dropIndex index)
  | _ => none

/-- **The statement that a list of tokens is**, if it is understood. -/
def ofTokens? : List Token → Option Command
  | .word verb :: .word noun :: ts =>
      if verb = "CREATE" ∧ noun = "TABLE" then readCreateTable ts
      else if verb = "CREATE" ∧ noun = "INDEX" then readCreateIndex ts
      else if verb = "ALTER" ∧ noun = "TABLE" then readAlterTable ts
      else if verb = "DROP" ∧ noun = "INDEX" then readDropIndex ts
      else none
  | _ => none

/-- **The effect of a statement.** -/
def run (db : Database) : Command → Except SchemaError Database
  | createTable table columns numbered growth => db.createTable table columns numbered growth
  | addColumn table column => db.addColumn table column
  | createIndex index unique table parts => db.createIndex index unique table parts
  | dropIndex index => db.dropIndex index
  | dropTable table => db.dropTable table

end Command

/-- **The effect of the text of a statement.**  A text that is not understood changes nothing. -/
def Database.execute (db : Database) (sql : String) : Except SchemaError Database :=
  match (scan .sqlite sql).bind Command.ofTokens? with
  | none => .error .unreadable
  | some c => c.run db

end Sqlite

end Conform

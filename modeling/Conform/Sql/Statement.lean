/-
**The statements that change a schema.**

Main definitions:

* `Engine` — how MySQL shall store new tables;
* `Clause` — one change of a table's columns;
* `Statement` — one change of the schema;
* `Clause.layout`, `Statement.layout` — their layout in a dialect;
* `indexName` — the name of the index of a column.

Main results:

* `Statement.write_alterTable` — a change of columns is written as its clause after the name of
  the table.
-/

import Conform.Column
import Conform.Live.TypeName
import Conform.Sql.Token

set_option relaxedAutoImplicit false
set_option autoImplicit false

namespace Conform

open Sql

/-- **The name of the index of a column.** -/
def indexName (table key : String) : String := s!"idx_{table}_{key}"

/-- How MySQL shall store new tables; both words are written as they are. -/
structure Engine where
  engine : String
  charset : String
  deriving DecidableEq, Repr

/-! ### Columns -/

def integerLayout (n : Int) : Layout :=
  match n with
  | .ofNat n => [word (toString n)]
  | .negSucc n => [mark '-', word (toString (n + 1))]

def ColumnType.layout (t : ColumnType) : Layout :=
  match t.length with
  | none => [word t.storage.keyword]
  | some n => [word t.storage.keyword, mark '(', word (toString n), mark ')']

def Default.layout? : Default → Option Layout
  | absent => none
  | number n => some (integerLayout n.toInt)
  | text s => some [literal s]

namespace Column

def defaultLayout (c : Column) : Layout :=
  match c.default.layout? with
  | none => []
  | some value => space :: words ["DEFAULT"] ++ value

/-- The comment of a new column, where it is part of the column. -/
def commentLayout (d : Dialect) (c : Column) : Layout :=
  match d with
  | .mysql => if c.label = "" then [] else space :: words ["COMMENT"] ++ [literal c.label]
  | .postgres | .sqlite => []

def specification (d : Dialect) (c : Column) : Layout :=
  c.type.layout ++ c.defaultLayout ++ c.commentLayout d

/-- **The definition of a column.** -/
def layout (d : Dialect) (c : Column) : Layout := name c.key :: space :: c.specification d

end Column

namespace SystemColumn

def keywords (d : Dialect) (c : SystemColumn) : List String :=
  match d, c with
  | .mysql, id => ["BIGINT", "UNSIGNED", "NOT", "NULL", "AUTO_INCREMENT", "PRIMARY", "KEY"]
  | .mysql, createdAt => ["DATETIME", "NOT", "NULL", "DEFAULT", "CURRENT_TIMESTAMP"]
  | .mysql, updatedAt =>
      ["DATETIME", "NOT", "NULL", "DEFAULT", "CURRENT_TIMESTAMP", "ON", "UPDATE",
        "CURRENT_TIMESTAMP"]
  | .mysql, deletedAt => ["DATETIME", "NULL", "DEFAULT", "NULL"]
  | .mysql, state => ["TINYINT", "NOT", "NULL", "DEFAULT", "1"]
  | .postgres, id => ["BIGSERIAL", "PRIMARY", "KEY"]
  | .postgres, createdAt => ["TIMESTAMP", "NOT", "NULL", "DEFAULT", "CURRENT_TIMESTAMP"]
  | .postgres, updatedAt => ["TIMESTAMP", "NOT", "NULL", "DEFAULT", "CURRENT_TIMESTAMP"]
  | .postgres, deletedAt => ["TIMESTAMP", "NULL", "DEFAULT", "NULL"]
  | .postgres, state => ["SMALLINT", "NOT", "NULL", "DEFAULT", "1"]
  | .sqlite, id => ["INTEGER", "PRIMARY", "KEY", "AUTOINCREMENT"]
  | .sqlite, createdAt => ["DATETIME", "NOT", "NULL", "DEFAULT", "CURRENT_TIMESTAMP"]
  | .sqlite, updatedAt => ["DATETIME", "NOT", "NULL", "DEFAULT", "CURRENT_TIMESTAMP"]
  | .sqlite, deletedAt => ["DATETIME", "NULL", "DEFAULT", "NULL"]
  | .sqlite, state => ["INTEGER", "NOT", "NULL", "DEFAULT", "1"]

/-- **The definition of a system column.** -/
def layout (d : Dialect) (c : SystemColumn) : Layout :=
  name c.key :: space :: lastWords (c.keywords d) ++
    match d with
    | .mysql => space :: words ["COMMENT"] ++ [literal c.label]
    | .postgres | .sqlite => []

end SystemColumn

/-! ### Changes of columns -/

/-- **One change of a table's columns.** -/
inductive Clause
  | addColumn (c : Column)
  /-- The whole column is stated again. -/
  | modifyColumn (c : Column)
  | alterType (key : String) (type : ColumnType)
  /-- The default is set, or dropped if it is absent. -/
  | alterDefault (key : String) (default : Default)
  deriving DecidableEq, Repr

namespace Clause

def key : Clause → String
  | addColumn c | modifyColumn c => c.key
  | alterType key _ | alterDefault key _ => key

/-- **The layout of a clause.** -/
def layout (d : Dialect) : Clause → Layout
  | addColumn c => words ["ADD", "COLUMN"] ++ c.layout d
  | modifyColumn c => words ["MODIFY", "COLUMN"] ++ c.layout d
  | alterType key type =>
      words ["ALTER", "COLUMN"] ++ name key :: space :: words ["TYPE"] ++ type.layout
  | alterDefault key default =>
      words ["ALTER", "COLUMN"] ++ name key :: space ::
        match default.layout? with
        | some value => words ["SET", "DEFAULT"] ++ value
        | none => lastWords ["DROP", "DEFAULT"]

/-- The clause that gives a live column the type of the wanted one, if the dialect has one. -/
def retype? (d : Dialect) (c : Column) : Option Clause :=
  match d with
  | .mysql => some (.modifyColumn c)
  | .postgres => some (.alterType c.key c.type)
  | .sqlite => none

/-- The clause that gives a live column of a given type the wanted default.  Long texts have no
defaults under MySQL, and SQLite cannot change defaults. -/
def redefault? (d : Dialect) (c : Column) (liveType : String) : Option Clause :=
  match d with
  | .mysql => if TypeName.isText liveType then none else some (.alterDefault c.key c.default)
  | .postgres => some (.alterDefault c.key c.default)
  | .sqlite => none

end Clause

/-! ### Statements -/

/-- **One change of the schema.** -/
inductive Statement
  | createTable (table : String) (columns : List Column) (comment : Option String)
  | alterTable (table : String) (clause : Clause)
  | createIndex (index table key : String)
  | dropIndex (index table : String)
  | commentTable (table text : String)
  | commentColumn (table key text : String)
  deriving DecidableEq, Repr

namespace Statement

def tableOptions (d : Dialect) (e : Engine) (comment : Option String) : Layout :=
  match d with
  | .mysql =>
      [space, word "ENGINE", mark '=', .verbatim e.engine, space, word "DEFAULT", space,
        word "CHARSET", mark '=', .verbatim e.charset] ++
      match comment with
      | none => []
      | some text => [space, word "COMMENT", mark '=', literal text]
  | .postgres | .sqlite => []

def columnLayouts (d : Dialect) (columns : List Column) : List Layout :=
  systemColumns.map (·.layout d) ++ columns.map (·.layout d)

/-- **The layout of a statement.** -/
def layout (d : Dialect) (e : Engine) : Statement → Layout
  | createTable table columns comment =>
      words ["CREATE", "TABLE"] ++ [name table, space, mark '(', .gap "\n"] ++
        [mark ',', .gap "\n"].intercalate
          ((columnLayouts d columns).map fun l => .gap "  " :: l) ++
        [.gap "\n", mark ')'] ++ tableOptions d e comment
  | alterTable table clause =>
      words ["ALTER", "TABLE"] ++ [name table, space] ++ clause.layout d
  | createIndex index table key =>
      words ["CREATE", "INDEX"] ++ [name index, space] ++ words ["ON"] ++
        [name table, space, mark '(', name key, mark ')']
  | dropIndex index table =>
      words ["DROP", "INDEX"] ++ name index ::
        match d with
        | .mysql => space :: words ["ON"] ++ [name table]
        | .postgres | .sqlite => []
  | commentTable table text =>
      words ["COMMENT", "ON", "TABLE"] ++ [name table, space] ++ words ["IS"] ++ [literal text]
  | commentColumn table key text =>
      words ["COMMENT", "ON", "COLUMN"] ++ [name table, mark '.', name key, space] ++
        words ["IS"] ++ [literal text]

/-- **The text of a statement.** -/
def write (d : Dialect) (e : Engine) (s : Statement) : String := Sql.write d (s.layout d e)

end Statement

def alterText (d : Dialect) (table clause : String) : String :=
  Sql.write d (words ["ALTER", "TABLE"] ++ [name table, space]) ++ clause

theorem Statement.write_alterTable (d : Dialect) (e : Engine) (table : String) (clause : Clause) :
    (Statement.alterTable table clause).write d e =
      alterText d table (Sql.write d (clause.layout d)) := by
  rw [Statement.write, Statement.layout, Sql.write_append, alterText]

end Conform

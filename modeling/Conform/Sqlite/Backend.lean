/-
**A SQLite database as a backend.**

Introspection reports the columns of a table with their declared types and defaults, also those of
the tables that every database has.  Of its indexes it reports those that are not unique, with the
plain columns among their parts; an index without plain columns is not reported.  The name of the
table is an argument of a query there, and an argument ends at its first NUL.
-/

import Conform.Backend.Basic
import Conform.Sqlite.Builtin
import Conform.Sqlite.Command

set_option relaxedAutoImplicit false
set_option autoImplicit false

namespace Conform

namespace Sqlite

/-- **A column as it is reported**, by name; none if its type is no text. -/
def Column.live? (c : Column) : Option (String × LiveColumn) :=
  c.type.map fun type =>
    (c.name, { type := type, length := TypeName.declaredLength? type, nullable := !c.notNull,
               default := c.default.bind Live.plainDefault, comment := none })

namespace Database

/-- Whether a table has exactly this name, letter case included. -/
def hasTable (db : Database) (name : String) : Bool := db.tables.any fun t => t.name == name

def argument (name : String) : String := String.ofList (Text.before '\x00' name.toList)

theorem argument_eq_self {name : String} (h : hasNul name = false) : argument name = name := by
  have hnot : '\x00' ∉ name.toList := by simpa [hasNul] using h
  rw [argument, Text.before_eq_self hnot, String.ofList_toList]

/-- Whether a table was made that hides one of those that questions are asked of. -/
def hides (db : Database) (sources : List String) : Bool :=
  sources.any fun t => (db.table? t).isSome

/-- The columns of a table that are reported: those that are not computed.  The table may be one
that every database has.  Of some tables they cannot be told. -/
def columnsOf? (db : Database) (table : String) : Option (List Column) :=
  if db.hides Builtin.columnSource then none
  else match db.table? table with
  | some t => some (t.columns.filter (!·.computed))
  | none =>
      if sameName table Builtin.failing then none else some ((Builtin.columns? table).getD [])

/-- **The columns of a table as they are reported**, by name. -/
def liveColumns? (db : Database) (table : String) : Option (NameMap LiveColumn) :=
  (db.columnsOf? (argument table)).bind fun columns =>
    (columns.mapM Column.live?).map fun live => Std.ExtTreeMap.ofList live

/-- The plain columns of an index. -/
def plainColumns (i : Index) : List String :=
  i.parts.filterMap fun
    | .column name => some name
    | .lowered _ => none

/-- The index rows that are reported of a table: one for each plain column of an index that is not
unique. -/
def indexRows (db : Database) (table : String) : List (String × String) :=
  ((db.indexesOf table).filter fun i => !i.unique).flatMap fun i =>
    (plainColumns i).map fun column => (i.name, column)

/-- **The indexes that are reported of a table.** -/
def liveIndexes? (db : Database) (table : String) : Option (NameMap (List String)) :=
  if db.hides Builtin.indexSource then none
  else some (Snapshot.groupRows (db.indexRows (argument table)))

end Database

def backendError (e : SchemaError) : BackendError := .database e.text

def told {α : Type} : Option α → Except BackendError α
  | some a => .ok a
  | none => .error (.database "the answer cannot be read")

/-- **The backend of a SQLite database.** -/
def backend : Backend Database where
  dialect := .sqlite
  tableExists table db := (.ok (db.hasTable table), db)
  columns table db := (told (db.liveColumns? table), db)
  indexes table db := (told (db.liveIndexes? table), db)
  execute sql db :=
    match db.execute sql with
    | .ok db' => (.ok (), db')
    | .error e => (.error (backendError e), db)

end Sqlite

end Conform

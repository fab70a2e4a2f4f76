/-
**Reading statements that somebody wrote.**

Tables and indexes are made and dropped.  A statement may say that it does nothing if what it makes
is there already, or if what it drops is not there.
-/

import Conform.Sqlite.Builtin
import Conform.Sqlite.Command
import Conform.Sqlite.Declaration.Reader

set_option relaxedAutoImplicit false
set_option autoImplicit false

namespace Conform

namespace Sqlite

/-! ### Statements -/

/-- **What a statement needs** to do anything. -/
inductive Proviso
  | nothing
  /-- There is no table of a name. -/
  | noTable (name : String)
  /-- There is no index of a name, or not the table that it is made for. -/
  | noIndex (name table : String)
  | hasTable (name : String)
  | hasIndex (name : String)
  /-- There is another database of a name. -/
  | otherDatabase
  deriving DecidableEq, Repr

/-- Whether a database has what is needed.  The database's own names are always looked at. -/
def Proviso.holds (db : Database) : Proviso → Bool
  | nothing => true
  | noTable name => isReserved name || (db.table? name).isNone
  | noIndex name table => isReserved table || (db.table? table).isNone || (db.index? name).isNone
  | hasTable name => (db.table? name).isSome || (Builtin.columns? name).isSome
  | hasIndex name => (db.index? name).isSome
  | otherDatabase => false

/-- **A statement that somebody wrote.** -/
structure Wording where
  proviso : Proviso
  /-- What it does; none if its parts do not fit together. -/
  command : Option Command
  deriving DecidableEq, Repr

/-- **The effect of a statement.** -/
def Wording.run (db : Database) (w : Wording) : Except SchemaError Database :=
  if w.proviso.holds db then w.command.elim (.error .unreadable) (Command.run db) else .ok db

namespace Reading

/-! ### Parts of statements -/

/-- The name of a table or an index, which may follow the name of a database, and whether it is the
name of this one. -/
def nameAnywhere : Reading (Lexeme × Bool) := do
  let l ← name
  if ← perhaps ["."] then return (← name, sameName l.value "main") else return (l, true)

/-- The name of a new table or index.  What is kept of a statement is read again without what stands
before the name, so that the name cannot be a word that may stand there. -/
def newName : Reading String := do
  let (l, isHere) ← nameAnywhere
  if isHere && !l.reads "if" then return l.value else failure

def unlessThere : Reading Bool := do
  if ← perhaps ["if"] then
    expectAll ["not", "exists"]
    return true
  else return false

/-- What a statement that drops something needs, with the name; the thing may be missing if that is
said. -/
def dropped (there : String → Proviso) : Reading (Proviso × String) := do
  let isQuiet ← perhaps ["if"]
  if isQuiet then expect ["exists"]
  let (l, isHere) ← nameAnywhere
  if isQuiet then return (if isHere then there l.value else .otherDatabase, l.value)
  else if isHere then return (.nothing, l.value)
  else failure

def nameOf? (e : Expr) : Option String :=
  match e.head with
  | .name l => some l.value
  | _ => none

/-- What an index is ordered by, if it is a column or the small letters of one. -/
def keyPart? (k : KeyTerm) : Option KeyPart :=
  let known : Bool := match k.expr.head with
    | .collate order => Expr.orders.any (sameName order)
    | _ => true
  if k.placesNull || !known then none
  else match k.expr.head, TableDraft.bare k.expr with
    | .text value, _ => some (.column value)
    | _, .node (.name l) _ => some (.column l.value)
    | _, .node (.call c) [e] =>
        if sameName c.name "lower" ∧ c.arguments = 1 ∧ !c.windowed then
          (nameOf? e).map KeyPart.lowered
        else none
    | _, _ => none

/-! ### Statements -/

def tableMade : Reading Wording := do
  let isQuiet ← unlessThere
  let table ← newName
  expect ["("]
  let (t, o) ← tableBody
  let made := (t.finish? table o).map fun (columns, growth) =>
    Command.createTable table columns t.counts growth
  return ⟨if isQuiet then .noTable table else .nothing, made⟩

def indexMade (unique : Bool) : Reading Wording := do
  let isQuiet ← unlessThere
  let index ← newName
  expect ["on"]
  let table := (← name).value
  expect ["("]
  let terms ← keyTerms (← get).length
  expect [")"]
  return ⟨if isQuiet then .noIndex index table else .nothing,
    (terms.mapM keyPart?).map fun parts => .createIndex index unique table parts⟩

/-- **A statement that comes next.** -/
def statement : Reading Wording := do
  if ← perhaps ["create"] then
    if ← perhaps ["table"] then tableMade
    else
      let unique ← perhaps ["unique"]
      expect ["index"]
      indexMade unique
  else
    expect ["drop"]
    if ← perhaps ["table"] then
      let (proviso, table) ← dropped .hasTable
      return ⟨proviso, some (.dropTable table)⟩
    else
      expect ["index"]
      let (proviso, index) ← dropped .hasIndex
      return ⟨proviso, some (.dropIndex index)⟩

end Reading

namespace Wording

/-- Whether the first variable of a statement can be looked for among its values: it has a number,
or none at all. -/
def bindsFirst (ls : List Lexeme) : Bool :=
  match ls.find? (·.shape = .variable) with
  | some ⟨_, _, '?' :: _⟩ => true
  | some ⟨_, _, '$' :: '0' :: c :: _⟩ => c.isDigit
  | some ⟨_, _, '$' :: c :: _⟩ => c.isDigit && c != '0'
  | some _ => false
  | none => true

/-- **The statement that some lexemes are**, with the semicolon at its end if it has one. -/
def ofLexemes? (ls : List Lexeme) : Option Wording :=
  (Reading.statement.run ls).bind fun (w, rest) =>
    if rest.all (·.reads ";") && bindsFirst ls then some w else none

end Wording

end Sqlite

end Conform

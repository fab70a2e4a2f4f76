/-
**Tables while they are declared.**

A table is put together column by column and constraint by constraint.  What does not fit to what is
there already is refused at once; what is said about the table as a whole is looked at in the end.

Main definitions:

* `Draft`, `Uniqueness`, `TableDraft` — columns, keys and tables that are being declared;
* `TableDraft.addColumn`, `TableDraft.addKey?`, `TableDraft.addUnique?` and others — what is
  declared;
* `TableDraft.finish?` — **the columns of the table and what can be added to them**.
-/

import Conform.Sqlite.Expression.Resolution

set_option relaxedAutoImplicit false
set_option autoImplicit false

namespace Conform

namespace Sqlite

/-- How the values of a computed column are found, and whether they are stored. -/
structure Formula where
  expr : Expr
  stored : Bool

/-- **A column that is being declared.** -/
structure Draft where
  column : Column
  order : String := "binary"
  isKey : Bool := false
  formula : Option Formula := none

/-- **A key that no two rows have in common**: columns with the orders of their texts, and what is
done with a row that breaks it, if that is said. -/
structure Uniqueness where
  parts : List (String × String)
  conflict : Option String
  deriving DecidableEq, Repr

structure KeyTerm where
  expr : Expr
  /-- Whether it is said where null stands in the order. -/
  placesNull : Bool

/-- **A table that is being declared.** -/
structure TableDraft where
  /-- The columns, last one first. -/
  drafts : List Draft := []
  hasKey : Bool := false
  /-- The column that is the number of a row, with what is done with rows that break the key. -/
  rowKey : Option (String × Option String) := none
  /-- Whether numbers of rows are never used again. -/
  counts : Bool := false
  conditions : List Expr := []
  unique : List Uniqueness := []

structure TableOptions where
  withoutNumbers : Bool := false
  strict : Bool := false
  deriving DecidableEq, Repr

namespace Uniqueness

def isSame (u v : Uniqueness) : Bool :=
  u.parts.length = v.parts.length &&
    (u.parts.zip v.parts).all fun (p, q) => sameName p.1 q.1 && sameName p.2 q.2

/-- Whether it is said of two keys that different things are done. -/
def disagrees (u v : Uniqueness) : Bool :=
  u.conflict.isSome && v.conflict.isSome && u.conflict != v.conflict

end Uniqueness

namespace TableDraft

/-! ### Columns -/

def addColumn (t : TableDraft) (name : String) (type : Option String) : TableDraft :=
  { t with drafts := { column := { name := name, type := type } } :: t.drafts }

def last? (t : TableDraft) : Option Draft := t.drafts.head?

def setLast (t : TableDraft) (d : Draft) : TableDraft := { t with drafts := d :: t.drafts.tail }

def find? (t : TableDraft) (name : String) : Option Draft :=
  t.drafts.find? fun d => sameName d.column.name name

def setDefault? (t : TableDraft) (value : String) : Option TableDraft :=
  t.last?.bind fun d =>
    if d.formula.isSome then none
    else some (t.setLast { d with column := { d.column with default := some value } })

/-- With a formula for the last column, which has no default and no other formula, and is no part of
the key. -/
def setFormula? (t : TableDraft) (f : Formula) : Option TableDraft :=
  t.last?.bind fun d =>
    if d.formula.isSome ∨ d.column.default.isSome ∨ d.isKey then none
    else some (t.setLast { d with formula := some f, column := { d.column with computed := true } })

def setOrder? (t : TableDraft) (order : String) : Option TableDraft :=
  t.last?.bind fun d =>
    if Expr.orders.any (sameName order) then
      let reorder := fun (p : String × String) =>
        if sameName p.1 d.column.name then (p.1, order) else p
      some { t.setLast { d with order := order } with
        unique := t.unique.map fun u => { u with parts := u.parts.map reorder } }
    else none

/-! ### Keys -/

/-- With a key more, unless another one with the same columns does not agree with it. -/
def addUnique? (t : TableDraft) (u : Uniqueness) : Option TableDraft :=
  match t.unique.find? u.isSame with
  | none => some { t with unique := t.unique ++ [u] }
  | some v =>
      if u.disagrees v then none
      else
        let merged := { v with conflict := v.conflict.or u.conflict }
        some { t with unique := t.unique.map fun w => if w.isSame u then merged else w }

def addUniqueColumn? (t : TableDraft) (conflict : Option String) : Option TableDraft :=
  t.last?.bind fun d => t.addUnique? ⟨[(d.column.name, d.order)], conflict⟩

/-- An expression without the orders of texts around it. -/
def bare : Expr → Expr
  | .node (.collate order) es =>
      match es with
      | [e] => bare e
      | es => .node (.collate order) es
  | e => e

def nameOf? (e : Expr) : Option String :=
  match e.head with
  | .name l => some l.value
  | .text value => some value
  | _ => none

/-- The column that is a part of a key, and the order of its texts, if both are there. -/
def part? (t : TableDraft) (e : Expr) : Option (String × String) :=
  let name := match e.head with
    | .text value => some value
    | _ => match (bare e).head with
      | .name l => some l.value
      | _ => none
  (name.bind t.find?).bind fun d =>
    let order := match e.head with
      | .collate order => order
      | _ => d.order
    if Expr.orders.any (sameName order) then some (d.column.name, order) else none

def addUniqueTerms? (t : TableDraft) (terms : List KeyTerm) (conflict : Option String) :
    Option TableDraft :=
  if terms.any (·.placesNull) ∨ columnLimit < terms.length then none
  else (terms.mapM fun k => t.part? k.expr).bind fun parts => t.addUnique? ⟨parts, conflict⟩

/-- With some columns as parts of the key of the table, if none of them is computed. -/
def markKey? (t : TableDraft) (names : List String) : Option TableDraft :=
  let isNamed := fun (d : Draft) => names.any (sameName d.column.name)
  if t.hasKey ∨ t.drafts.any (fun d => isNamed d && d.formula.isSome) then none
  else some { t with
    hasKey := true
    drafts := t.drafts.map fun d => if isNamed d then { d with isKey := true } else d }

def isNumbered (d : Draft) : Bool := d.column.type == some "INTEGER"

/-- With the last column as the key of the table.  An integer in increasing order is the number of
its row. -/
def addKey? (t : TableDraft) (descends counts : Bool) (conflict : Option String) :
    Option TableDraft :=
  t.last?.bind fun d =>
    (t.markKey? [d.column.name]).bind fun t =>
      if isNumbered d && !descends then
        some { t with rowKey := some (d.column.name, conflict), counts := counts }
      else if counts then none
      else t.addUniqueColumn? conflict

/-- With some columns as the key of the table.  A single integer is the number of its row. -/
def addKeyTerms? (t : TableDraft) (terms : List KeyTerm) (counts : Bool)
    (conflict : Option String) : Option TableDraft :=
  let names := terms.filterMap fun k => nameOf? (bare k.expr)
  (t.markKey? names).bind fun t =>
    match terms, names.filterMap t.find? with
    | [k], [d] =>
        if isNumbered d then
          if k.placesNull then none
          else some { t with rowKey := some (d.column.name, conflict), counts := counts }
        else if counts then none
        else t.addUniqueTerms? terms conflict
    | _, _ => if counts then none else t.addUniqueTerms? terms conflict

/-- Whether a list of columns can refer to columns of another table, of which there are `others` if
they are named. -/
def refers (t : TableDraft) (names : List String) (others : Option Nat) : Bool :=
  names.all (fun name => (t.find? name).isSome) && others.all (· = names.length)

/-! ### The whole table -/

def inOrder (t : TableDraft) : List Draft := t.drafts.reverse

def scope (t : TableDraft) (table : String) (o : TableOptions) : Scope :=
  ⟨table, t.inOrder.map (·.column.name), !o.withoutNumbers⟩

def isVirtual (d : Draft) : Bool := d.formula.any (!·.stored)

def mentions (e : Expr) (name : String) : Bool :=
  !e.all fun h _ =>
    match h with
    | .name l => !sameName l.value name
    | _ => true

/-- Columns without those whose formulas name none of them, in at most `n` steps. -/
def knotted : Nat → List Draft → List Draft
  | 0, ds => ds
  | n + 1, ds =>
      knotted n (ds.filter fun d =>
        d.formula.any fun f => ds.any fun e => mentions f.expr e.column.name)

/-- **Whether the columns that are computed when they are read can be computed**: their formulas
have values, and no column is needed for itself. -/
def canBeRead (t : TableDraft) (s : Scope) : Bool :=
  let ds := t.inOrder.filter isVirtual
  ds.all (fun d => d.formula.all fun f => f.expr.hasValue s) && (knotted ds.length ds).isEmpty

/-- Whether the options allow the table: rows without numbers need a key, and a strict table has
standard types. -/
def allows (t : TableDraft) (o : TableOptions) : Bool :=
  (!o.withoutNumbers || (t.hasKey && !t.counts)) &&
    (!o.strict || t.drafts.all fun d => d.column.type.any standardTypes.contains)

def isFilled (t : TableDraft) (o : TableOptions) (d : Draft) : Bool :=
  d.isKey &&
    (o.withoutNumbers || (o.strict && !t.rowKey.any fun k => sameName k.1 d.column.name))

def columns (t : TableDraft) (o : TableOptions) : List Column :=
  t.inOrder.map fun d => { d.column with notNull := d.column.notNull || t.isFilled o d }

/-- What can be added to the table.  The conditions on the rows of a strict table are looked at
then. -/
def growth (t : TableDraft) (s : Scope) (o : TableOptions) : Growth :=
  if !o.strict then .free
  else if t.conditions.all (·.hasValue s) then .standard
  else .barred

/-- The table with the key that it has if its rows have no numbers. -/
def withoutNumbers? (t : TableDraft) (o : TableOptions) : Option TableDraft :=
  match o.withoutNumbers, t.rowKey with
  | true, some (name, conflict) =>
      t.addUnique? ⟨[(name, ((t.find? name).map (·.order)).getD "binary")], conflict⟩
  | _, _ => some t

/-- **The columns of the table and what can be added to them**, if the table is allowed. -/
def finish? (t : TableDraft) (table : String) (o : TableOptions) :
    Option (List Column × Growth) :=
  let s := t.scope table o
  if t.allows o && (t.withoutNumbers? o).isSome && t.conditions.all s.isCondition &&
      t.drafts.all (fun d => d.formula.all fun f => s.isFormula f.expr) &&
      t.drafts.any (·.formula.isNone) && t.canBeRead s then
    some (t.columns o, t.growth s o)
  else none

end TableDraft

end Sqlite

end Conform

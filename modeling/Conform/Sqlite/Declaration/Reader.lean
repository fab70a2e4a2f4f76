/-
**Reading the declaration of a table.**

A column is its name, a type and constraints; after the columns there may be constraints on the
whole table, and options after the parenthesis that closes them.  Nothing is asked of the tables
that are referred to.

Main definitions:

* `Reading.columnConstraint`, `Reading.tableConstraint` — a constraint that comes next;
* `Reading.tableBody` — **the columns and constraints of a table**, and its options.
-/

import Conform.Sqlite.Declaration.Draft
import Conform.Sqlite.Declaration.Kept
import Conform.Sqlite.Expression.Reader

set_option relaxedAutoImplicit false
set_option autoImplicit false

namespace Conform

namespace Sqlite

namespace Reading

/-- What a step gives, with the lexemes that it takes. -/
def withTaken {α : Type} (r : Reading α) : Reading (α × List Lexeme) := do
  let before ← get
  let a ← r
  return (a, before.take (before.length - (← get).length))

/-- A step that is repeated until a lexeme fulfils a condition, at most `n` times. -/
def untilSees {α : Type} (p : Lexeme → Bool) (r : α → Reading α) : Nat → α → Reading α
  | 0, _ => failure
  | n + 1, a => do if ← sees p then return a else untilSees p r n (← r a)

def enclosed : Reading Expr := do
  expect ["("]
  let e ← expression
  expect [")"]
  return e

/-! ### Parts of constraints -/

def conflict : Reading (Option String) := do
  if ← perhaps ["on"] then
    expect ["conflict"]
    let l ← next
    if l.readsAny ["abort", "fail", "ignore", "replace", "rollback"] then
      return some (foldName l.value)
    else failure
  else return none

def deferral : Reading Unit := do
  if ← perhaps ["initially"] then expect ["deferred", "immediate"]

def action : Reading Unit := do
  if ← perhaps ["set"] then expect ["null", "default"]
  else if ← perhaps ["no"] then expect ["action"]
  else expect ["cascade", "restrict"]

def reactions : Nat → Reading Unit
  | 0 => return ()
  | n + 1 => do
      if ← perhaps ["on"] then
        expect ["insert", "delete", "update"]
        action
        reactions n
      else if ← perhaps ["match"] then
        let _ ← name
        reactions n

def names : Nat → Reading (List String)
  | 0 => failure
  | n + 1 => do
      let l ← name
      if ← perhaps [","] then return l.value :: (← names n)
      else
        expect [")"]
        return [l.value]

/-- A reference to another table; gives the number of the columns that are named there. -/
def reference : Reading (Option Nat) := do
  let _ ← name
  let others ← if ← perhaps ["("] then pure (some (← names (← get).length)) else pure none
  reactions (← get).length
  return others.map (·.length)

def keyTerms : Nat → Reading (List KeyTerm)
  | 0 => failure
  | n + 1 => do
      let e ← expression
      let _ ← perhaps ["asc", "desc"]
      let placesNull ← perhaps ["nulls"]
      if placesNull then expect ["first", "last"]
      let k : KeyTerm := ⟨e, placesNull⟩
      if ← perhaps [","] then return k :: (← keyTerms n) else return [k]

/-! ### Constraints on a column -/

/-- A value that can be a default without parentheses, after its sign if it has one. -/
def term : Reading Unit := do
  let l ← next
  match l.shape with
  | .literal | .number _ | .blob => return ()
  | _ => if l.readsAny ("null" :: clockWords) then return () else failure

def defaultValue : Reading Unit := do
  if ← seesWord ["("] then
    if (← enclosed).isConstant then return () else failure
  else if ← perhaps ["+", "-"] then term
  else if ← sees fun l => l.readsAny clockWords || !(l.isName || l.reads "indexed") then term
  else
    let _ ← next

def formula : Reading Formula := do
  let e ← enclosed
  if ← perhaps ["stored"] then return ⟨e, true⟩
  else if ← perhaps ["virtual"] then return ⟨e, false⟩
  else if ← sees (·.isName) then failure
  else return ⟨e, false⟩

/-- **A constraint on the last column** that comes next. -/
def columnConstraint (t : TableDraft) : Reading TableDraft := do
  let l ← next
  if l.reads "constraint" then
    let _ ← name
    return t
  else if l.reads "null" then
    let _ ← conflict
    return t
  else if l.reads "unique" then t.addUniqueColumn? (← conflict)
  else if l.reads "not" then
    if ← perhaps ["deferrable"] then
      deferral
      return t
    else
      expect ["null"]
      let _ ← conflict
      let d ← t.last?
      return t.setLast { d with column := { d.column with notNull := true } }
  else if l.reads "deferrable" then
    deferral
    return t
  else if l.reads "references" then
    if (← reference).all (· = 1) then return t else failure
  else if l.reads "check" then return { t with conditions := t.conditions ++ [← enclosed] }
  else if l.reads "primary" then
    expect ["key"]
    let descends ← seesWord ["desc"]
    let _ ← perhaps ["asc", "desc"]
    let c ← conflict
    t.addKey? descends (← perhaps ["autoincrement"]) c
  else if l.reads "collate" then t.setOrder? (← plainName).value
  else if l.reads "default" then t.setDefault? (keptDefault (← withTaken defaultValue).2)
  else if l.reads "as" then t.setFormula? (← formula)
  else if l.reads "generated" then
    expectAll ["always", "as"]
    t.setFormula? (← formula)
  else failure

/-- **A column that comes next**, with its constraints. -/
def column? (t : TableDraft) : Reading TableDraft := do
  let l ← name
  let type ← withTaken typeName
  let t := t.addColumn l.value (keptType? (Lexeme.span type.2))
  untilSees (·.readsAny [",", ")"]) columnConstraint ((← get).length + 1) t

/-! ### Constraints on a table -/

def constraintWords : List String := ["constraint", "primary", "unique", "check", "foreign"]

/-- **A constraint on the table** that comes next. -/
def tableConstraint (t : TableDraft) : Reading TableDraft := do
  let l ← next
  if l.reads "constraint" then
    let _ ← name
    return t
  else if l.reads "check" then
    let e ← enclosed
    let _ ← conflict
    return { t with conditions := t.conditions ++ [e] }
  else if l.reads "unique" then
    expect ["("]
    let terms ← keyTerms (← get).length
    expect [")"]
    t.addUniqueTerms? terms (← conflict)
  else if l.reads "primary" then
    expectAll ["key", "("]
    let terms ← keyTerms (← get).length
    let counts ← perhaps ["autoincrement"]
    expect [")"]
    t.addKeyTerms? terms counts (← conflict)
  else if l.reads "foreign" then
    expectAll ["key", "("]
    let columns ← names (← get).length
    expect ["references"]
    let others ← reference
    if ← perhaps ["not"] then
      expect ["deferrable"]
      deferral
    else if ← perhaps ["deferrable"] then deferral
    if t.refers columns others then return t else failure
  else failure

/-- The constraints on a table, up to the parenthesis that closes them; commas between them may be
missing. -/
def tableConstraints (t : TableDraft) : Reading TableDraft := do
  let step := fun (t : TableDraft) => do
    let _ ← perhaps [","]
    tableConstraint t
  let t ← tableConstraint t
  untilSees (·.reads ")") step (← get).length t

/-- The columns and constraints of a table, at most `n` of them, up to the parenthesis that closes
them. -/
def tableParts : Nat → TableDraft → Reading TableDraft
  | 0, _ => failure
  | n + 1, t => do
      let t ← column? t
      if ← perhaps [","] then
        if ← seesWord constraintWords then tableConstraints t else tableParts n t
      else return t

def tableOption (o : TableOptions) : Reading TableOptions := do
  let l ← next
  if l.reads "without" then
    expect ["rowid"]
    return { o with withoutNumbers := true }
  else if l.reads "strict" then return { o with strict := true }
  else failure

def tableOptions : Nat → TableOptions → Reading TableOptions
  | 0, _ => failure
  | n + 1, o => do
      let o ← tableOption o
      if ← perhaps [","] then tableOptions n o else return o

/-- **The columns and constraints of a table**, after the parenthesis, and its options. -/
def tableBody : Reading (TableDraft × TableOptions) := do
  let t ← tableParts (← get).length {}
  expect [")"]
  if ← seesWord ["without", "strict"] then return (t, ← tableOptions (← get).length {})
  else return (t, {})

end Reading

end Sqlite

end Conform

/-
**What expressions about the rows of a table may say.**

A condition on the rows of a table names the columns of that table and functions that there are.
The values of a computed column follow from the other columns of the row, so that its expression
may say less.  Not every expression that may be said has a value: only some of them are tried.
-/

import Conform.Numeral.Decimal
import Conform.Sqlite.Expression

set_option relaxedAutoImplicit false
set_option autoImplicit false

namespace Conform

namespace Sqlite

/-- **The table that an expression is about**, and whether its rows have numbers. -/
structure Scope where
  table : String
  columns : List String
  rowsHaveNumbers : Bool
  deriving DecidableEq, Repr

namespace Scope

/-! ### Names -/

def rowNames : List String := ["rowid", "oid", "_rowid_"]

def isColumn (s : Scope) (name : String) : Bool := s.columns.any (sameName name)

def isInRow (s : Scope) (name : String) : Bool :=
  s.isColumn name || (s.rowsHaveNumbers && rowNames.any (sameName name))

/-- Whether a lexeme needs no column: it is a truth value, or a text in double quotes. -/
def isPlain (l : Lexeme) : Bool := Expr.isTruth l || l.text.head? == some '\x22'

/-! ### Rows of values -/

def unordered : Expr → Expr
  | .node (.collate _) [e] => e
  | e => e

def isTruth (s : Scope) (e : Expr) : Bool :=
  match (unordered e).head with
  | .truth _ => true
  | .name l => Expr.isTruth l && !s.isColumn l.value
  | _ => false

def sameWidth : List Expr → Bool
  | [] => true
  | e :: es => es.all (·.width = e.width)

/-- Whether a comparison is one of values with the same number of columns.  The comparison with a
truth value asks for none. -/
def isEven (s : Scope) (h : Head) (es : List Expr) : Bool :=
  match h, es with
  | .identity, [_, f] => s.isTruth f || sameWidth es
  | .compare, _ | .identity, _ | .between, _ => sameWidth es
  | _, _ => true

/-! ### Functions -/

/-- Whether an expression is a number with a fraction or an exponent that is at most one. -/
def isProbability (e : Expr) : Bool :=
  match e.head with
  | .number digits =>
      let digits := digits.filter (· != '_')
      digits.any (fun c => c == '.' || c == 'e' || c == 'E') && !digits.any (· == 'x') &&
        (Binary64.read? digits).any (·.units ≤ Binary64.one)
  | _ => false

/-- The function that a call is of, if there is one for single rows.  How likely a condition is has
to be given as a number. -/
def function? (c : Call) (es : List Expr) : Option Function :=
  if c.windowed ∨ c.arguments < es.length then none
  else if sameName c.name "likelihood" ∧ !(es.drop 1).all isProbability then none
  else Function.find? c.name c.arguments

/-! ### Conditions and formulas -/

def allows (s : Scope) (h : Head) (es : List Expr) : Bool :=
  s.isEven h es &&
    match h with
    | .name l => s.isInRow l.value || isPlain l
    | .columnOf _ table column => sameName table s.table && s.isInRow column
    | .call c => (function? c es).isSome
    | .variable | .query _ | .existence _ => false
    | _ => true

/-- Whether a formula may say something: it names no table and no number of a row, and its functions
depend on their arguments only. -/
def computes (s : Scope) (h : Head) (es : List Expr) : Bool :=
  s.isEven h es &&
    match h with
    | .name l => s.isColumn l.value || isPlain l
    | .call c => (function? c es).any (·.constancy = .always)
    | .columnOf .. | .variable | .query _ | .existence _ => false
    | _ => true

/-- **Whether an expression is a condition on the rows of the table.** -/
def isCondition (s : Scope) (e : Expr) : Bool :=
  e.height ≤ Expr.heightLimit && e.all s.allows

/-- **Whether an expression computes a column of the table.** -/
def isFormula (s : Scope) (e : Expr) : Bool :=
  e.height ≤ Expr.heightLimit && e.all s.computes

end Scope

/-! ### Values -/

namespace Expr

def orders : List String := ["binary", "nocase", "rtrim"]

mutual

def firstOrder? : Expr → Option String
  | node (.collate order) _ => some order
  | node _ es => firstOrderOf? es

def firstOrderOf? : List Expr → Option String
  | [] => none
  | e :: es => e.firstOrder?.or (firstOrderOf? es)

end

def compared : Head → List Expr → List Expr
  | .compare, es | .identity, es | .between, es | .choice true, es => es
  | .among, es => es.take 1
  | .call c, es => if ["max", "min", "nullif"].any (sameName c.name) then es else []
  | _, _ => []

def conditions : List Expr → List Expr
  | e :: _ :: es => e :: conditions es
  | _ => []

/-- The values of a choice after its conditions, and the value that is taken without any. -/
def outcomes : List Expr → List Expr
  | _ :: e :: es => e :: outcomes es
  | es => es

def usesRows (s : Scope) (h : Head) (es : List Expr) : Bool :=
  match h, es with
  | .identity, [e, f] => if s.isTruth f then e.width = 1 else true
  | .compare, _ | .identity, _ | .between, _ => true
  | .choice true, e :: es =>
      (conditions es).all (·.width = e.width) && (outcomes es).all (·.width = 1)
  | _, es => es.all (·.width = 1)

/-- **Whether the value of an expression can be found** for a row of a table: no change is given up,
rows of values are used as such, and texts are compared in an order that there is. -/
def hasValue (s : Scope) (e : Expr) : Bool :=
  e.width = 1 && e.all fun h es =>
    h != .giveUp && usesRows s h es &&
      (firstOrderOf? (compared h es)).all fun order => orders.any (sameName order)

end Expr

end Sqlite

end Conform

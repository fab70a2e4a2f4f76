/-
**Expressions.**

An expression is a tree: a head, which says what is done, and the parts that it is done with.  The
height of a tree is limited, and so is what can be put together: some expressions are made simpler
as soon as they are read.

Main definitions:

* `Head`, `Expr` — expressions;
* `Expr.all` — whether each node of an expression fulfils a condition;
* `Expr.height` — **how high an expression is**; some parts do not count;
* `Expr.make?` — an expression that is not too high;
* `Expr.and?`, `Expr.signed?`, `Expr.among?` — expressions in their simplest form;
* `Expr.isConstant`, `Expr.isFixed` — **whether a value can be found without rows**.
-/

import Conform.Sqlite.Function
import Conform.Sqlite.Lexeme

set_option relaxedAutoImplicit false
set_option autoImplicit false

namespace Conform

namespace Sqlite

/-! ### Trees -/

/-- **A call of a function**: its name and how many of the parts are arguments.  The other parts are
what the arguments are ordered by. -/
structure Call where
  name : String
  arguments : Nat
  /-- Whether the call chooses among rows, or is made for windows of rows. -/
  windowed : Bool := false
  deriving DecidableEq, Repr

/-- **What an expression does with its parts.** -/
inductive Head
  | text (value : String)
  | number (digits : List Char)
  | blob
  | null
  | truth (value : Bool)
  | variable
  | name (l : Lexeme)
  /-- A column with its table, and whether a database is named too. -/
  | columnOf (far : Bool) (table column : String)
  | giveUp
  | call (c : Call)
  | collate (order : String)
  | cast
  | sign (plus : Bool)
  | operator
  /-- Of two parts, whether one is equal to the other, or less than it. -/
  | compare
  /-- Of two parts, whether one is the other, even if it is null. -/
  | identity
  | between
  /-- Whether the first part is among the others. -/
  | among
  /-- The outcome of the first condition that holds, or of the first one that is equal to a base. -/
  | choice (based : Bool)
  | row
  /-- Something that is asked of tables, with expressions of some height. -/
  | query (height : Nat)
  /-- Whether there is an answer to what is asked of tables. -/
  | existence (height : Nat)
  deriving DecidableEq, Repr

/-- **An expression.** -/
inductive Expr
  | node (head : Head) (parts : List Expr)
  deriving Repr

namespace Expr

def leaf (h : Head) : Expr := node h []

def head : Expr → Head
  | node h _ => h

def parts : Expr → List Expr
  | node _ es => es

/-- How many columns the value of an expression has. -/
def width (e : Expr) : Nat := if e.head = .row then e.parts.length else 1

mutual

/-- **Whether each node of an expression fulfils a condition**, which is given the head and the
parts of a node. -/
def all (p : Head → List Expr → Bool) : Expr → Bool
  | node h es => p h es && allOf p es

def allOf (p : Head → List Expr → Bool) : List Expr → Bool
  | [] => true
  | e :: es => e.all p && allOf p es

end

/-! ### Heights -/

/-- How many of the first parts count for the height of an expression. -/
def counted (h : Head) (parts : Nat) : Nat :=
  match h with
  | .collate _ | .row => 0
  | .between => 1
  | .call c => c.arguments
  | _ => parts

/-- The height of what is below a head and is none of its parts. -/
def hidden (h : Head) : Nat :=
  match h with
  | .query height | .existence height => height
  | .columnOf far _ _ => if far then 2 else 1
  | _ => 0

mutual

/-- **How high an expression is.** -/
def height : Expr → Nat
  | node h es => 1 + max (hidden h) (heightOf (counted h es.length) es)

/-- How high the highest of the first `n` expressions is. -/
def heightOf (n : Nat) : List Expr → Nat
  | [] => 0
  | e :: es => if n = 0 then 0 else max e.height (heightOf (n - 1) es)

end

def heightLimit : Nat := 1000

/-- **An expression that is not too high.** -/
def make? (h : Head) (es : List Expr) : Option Expr :=
  if (node h es).height ≤ heightLimit then some (node h es) else none

/-! ### Constants -/

def isTruth (l : Lexeme) : Bool := l.readsAny ["true", "false"]

/-- **Whether a value can be found without rows**, for a column that is given none: no columns are
named, nothing is asked of tables, and calls are made for single rows. -/
def isConstant (e : Expr) : Bool :=
  e.all fun h _ =>
    match h with
    | .name l => isTruth l
    | .call c => !c.windowed
    | .columnOf .. | .giveUp | .variable | .query _ | .existence _ => false
    | _ => true

/-- **Whether a value is the same for every row**: variables have values here, and functions have to
be constant while a statement runs. -/
def isFixed (e : Expr) : Bool :=
  e.all fun h _ =>
    match h with
    | .name l => isTruth l
    | .call c =>
        !c.windowed && (Function.find? c.name c.arguments).any (·.constancy != .never)
    | .columnOf .. | .giveUp | .query _ | .existence _ => false
    | _ => true

def isCast : Expr → Bool
  | node .cast _ => true
  | node (.collate _) (e :: _) | node .row (e :: _) => e.isCast
  | _ => false

/-! ### Simplest forms -/

def zero : Expr := leaf (.number ['0'])

/-- Whether a condition is known to be false: the truth value, or a whole number that is zero. -/
def isFalse (e : Expr) : Bool :=
  match e.head with
  | .truth value => !value
  | .number ('0' :: 'x' :: s) | .number ('0' :: 'X' :: s) | .number s => s.all (· == '0')
  | _ => false

/-- **Both of two conditions.**  If one is known to be false, the other is not kept. -/
def and? (e f : Expr) : Option Expr :=
  if e.isFalse || f.isFalse then some zero else make? .operator [e, f]

/-- **A number with a sign.**  A plus sign after a sign is not kept. -/
def signed? (plus : Bool) (e : Expr) : Option Expr :=
  match e with
  | node (.sign true) es => some (node (.sign plus) es)
  | e => make? (.sign plus) [e]

def negated? (negated : Bool) (e : Expr) : Option Expr :=
  if negated then make? .operator [e] else some e

/-- Whether an expression is one of some others, or a row of a list. -/
def amongOf? (e : Expr) (es : List Expr) : Option Expr :=
  match es with
  | [] => some (leaf (.truth false))
  | [f] =>
      if e.head ≠ .row ∧ f.isFixed then
        (make? (.sign true) [f]).bind fun f => make? .compare [e, f]
      else many e [f]
  | es => many e es
where
  /-- Whether an expression is one of some others, which cannot be said more simply. -/
  many (e : Expr) (es : List Expr) : Option Expr :=
    match es with
    | [node (.query height) []] => make? (.query height) [e]
    | es =>
        if e.head = .row then
          if es.all (·.width = e.width) then
            let rows := es.flatMap fun f => if f.head = .row then f.parts else [f]
            make? (.query (heightOf rows.length rows)) [e]
          else none
        else make? .among (e :: es)

/-- **Whether an expression is one of a list**, or none of it.  In an empty list there is nothing,
whatever the expression is. -/
def among? (negated : Bool) (e : Expr) (es : List Expr) : Option Expr :=
  if es.isEmpty then some (leaf (.truth negated)) else (amongOf? e es).bind (negated? negated)

/-- **A call of a function.**  What no arguments are ordered by is not kept. -/
def call? (name : String) (args order : List Expr) : Option Expr :=
  if Function.argumentLimit < args.length then none
  else make? (.call ⟨name, args.length, false⟩) (args ++ if args.isEmpty then [] else order)

/-- Whether an expression is another one.  That it is null asks of one expression only. -/
def is? (e f : Expr) : Option Expr :=
  if f.head = .null then make? .operator [e] else make? .identity [e, f]

end Expr

end Sqlite

end Conform

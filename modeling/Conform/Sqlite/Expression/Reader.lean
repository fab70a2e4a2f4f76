/-
**Reading expressions.**

An expression is read from its lexemes: an operand, and then the operators that bind more tightly
than what the expression is read for.  What is asked of tables can stand in an expression; of it
only the height of its expressions is kept.

Main definitions:

* `Reading` — a step that takes lexemes, or fails;
* `Reading.expr` — **the expression that comes next**;
* `Reading.select` — a query that comes next.

Every definition here that reads parts of its own kind is given a number, which is larger than any
number of steps that the lexemes allow.
-/

import Conform.Sqlite.Expression

set_option relaxedAutoImplicit false
set_option autoImplicit false

namespace Conform

namespace Sqlite

/-- **A step that takes lexemes** from the beginning of a list, or fails. -/
abbrev Reading (α : Type) : Type := StateT (List Lexeme) Option α

namespace Reading

/-! ### Single lexemes -/

def next : Reading Lexeme := do
  match ← get with
  | l :: ls => set ls; return l
  | [] => failure

def sees (p : Lexeme → Bool) : Reading Bool := return (← get).head?.any p

def seesWord (ws : List String) : Reading Bool := sees (·.readsAny ws)

/-- The next lexeme is taken, if it fulfils a condition; else nothing is. -/
def take? (p : Lexeme → Bool) : Reading (Option Lexeme) := do
  if ← sees p then return some (← next) else return none

/-- The next lexeme is taken if it is one of some words; gives whether it is. -/
def perhaps (ws : List String) : Reading Bool := return (← take? (·.readsAny ws)).isSome

/-- The next lexeme is taken, and has to be one of some words. -/
def expect (ws : List String) : Reading Unit := do
  if ← perhaps ws then return () else failure

def expectAll (ws : List String) : Reading Unit := ws.forM fun w => expect [w]

def name : Reading Lexeme := do
  match ← take? fun l => l.isWideName || l.shape == .literal with
  | some l => return l
  | none => failure

/-- A name that no other word of the grammar can be, or a literal. -/
def plainName : Reading Lexeme := do
  match ← take? fun l => l.isName || l.shape == .literal with
  | some l => return l
  | none => failure

/-! ### Strengths: how tightly operators bind -/

def conjunction : Nat := 2

def negation : Nat := 3

/-- How tightly comparisons for equality bind, and `LIKE`, `BETWEEN` and the like. -/
def equality : Nat := 4

/-- The operators between two operands that are one keyword or sign, with their strengths.  Six is
the strength of `ESCAPE`. -/
def binaryOperators : List (Nat × List String) :=
  [(1, ["or"]), (conjunction, ["and"]), (equality, ["=", "==", "<>", "!="]),
    (5, ["<", "<=", ">", ">="]), (7, ["&", "|", "<<", ">>"]), (8, ["+", "-"]),
    (9, ["*", "/", "%"]), (10, ["||", "->", "->>"])]

def binary? (l : Lexeme) : Option Nat :=
  (binaryOperators.find? fun e => l.readsAny e.2).map (·.1)

def likeWords : List String := ["like", "glob", "regexp", "match"]

def clockWords : List String := ["current_date", "current_time", "current_timestamp"]

def queryWords : List String := ["select", "values", "with"]

def operate? (l : Lexeme) (e f : Expr) : Option Expr :=
  if l.reads "and" then e.and? f
  else if l.readsAny ["=", "==", "<>", "!=", "<", "<=", ">", ">="] then Expr.make? .compare [e, f]
  else if l.readsAny ["->", "->>"] then Expr.call? l.value [e, f] []
  else Expr.make? .operator [e, f]

/-! ### Parts of expressions -/

def variableLimit : Nat := 32766

def isVariable (l : Lexeme) : Bool :=
  match l.text with
  | '?' :: digits =>
      let n := digits.foldl (fun n d => 10 * n + (d.toNat - '0'.toNat)) 0
      digits.isEmpty || (0 < n && n ≤ variableLimit)
  | '#' :: c :: _ => !c.isDigit
  | _ => true

/-- A column that is named with its table, of which `first` is the first name. -/
def column (first : Lexeme) : Reading Expr := do
  let second ← name
  if ← perhaps ["."] then
    let third ← name
    return .leaf (.columnOf true second.value third.value)
  else return .leaf (.columnOf false first.value second.value)

def giveUp : Reading Expr := do
  expect ["("]
  if !(← perhaps ["ignore"]) then
    expect ["abort", "fail", "rollback"]
    expect [","]
    let _ ← name
  expect [")"]
  return .leaf .giveUp

def signedNumber : Reading Unit := do
  let _ ← perhaps ["+", "-"]
  let l ← next
  if l.shape = .number false then return () else failure

def typeNames : Nat → Reading Unit
  | 0 => return ()
  | n + 1 => do
      if (← take? fun l => l.isName || l.shape == .literal).isSome then typeNames n else return ()

/-- The name of a type, which may be missing, with perhaps one or two sizes. -/
def typeName : Reading Unit := do
  if (← take? fun l => l.isName || l.shape == .literal).isSome then
    typeNames (← get).length
    if ← perhaps ["("] then
      signedNumber
      if ← perhaps [","] then signedNumber
      expect [")"]
  else return ()

def nameList : Nat → Reading Unit
  | 0 => failure
  | n + 1 => do
      let _ ← name
      if ← perhaps [","] then nameList n else expect [")"]

def otherName : Reading Unit := do
  if ← perhaps ["as"] then
    let _ ← name
  else
    let _ ← take? fun l => l.isName || l.shape == .literal

/-- What a word says about a join: whether rows without a partner are left out, whether those of the
first or of the second table are kept, and whether any are kept at all. -/
structure JoinKind where
  inner : Bool := false
  left : Bool := false
  right : Bool := false
  outer : Bool := false

def joinKinds : List (String × JoinKind) :=
  [("natural", {}), ("left", { left := true, outer := true }), ("outer", { outer := true }),
    ("right", { right := true, outer := true }),
    ("full", { left := true, right := true, outer := true }),
    ("inner", { inner := true }), ("cross", { inner := true })]

def isJoin (ls : List Lexeme) : Bool :=
  let kinds := ls.map fun l => joinKinds.lookup (String.ofList (Text.lower l.text))
  let has := fun (p : JoinKind → Bool) => kinds.any (·.any p)
  kinds.all Option.isSome && !(has (·.inner) && has (·.outer)) &&
    (!has (·.outer) || has (·.left) || has (·.right))

/-- The words that join a table to those before it, which may be missing; gives whether they are
there. -/
def join : Reading Bool := do
  if ← perhaps [",", "join"] then return true
  else match ← take? (·.readsAny Lexeme.joinWords) with
    | none => return false
    | some first =>
        let second ← take? fun l => !l.reads "join" && (l.isWideName || l.shape == .literal)
        let third ← take? fun l => !l.reads "join" && (l.isWideName || l.shape == .literal)
        expect ["join"]
        if isJoin (first :: (second.toList ++ third.toList)) then return true else failure

inductive Edge
  | preceding
  | current
  | following
  deriving DecidableEq, Repr

def Edge.reaches : Edge → Edge → Bool
  | current, preceding | following, preceding | following, current => false
  | _, _ => true

def exclusion : Reading Unit := do
  if ← perhaps ["exclude"] then
    if ← perhaps ["no"] then expect ["others"]
    else if ← perhaps ["current"] then expect ["row"]
    else expect ["group", "ties"]

def materialized : Reading Unit := do
  if ← perhaps ["not"] then expect ["materialized"]
  else
    let _ ← perhaps ["materialized"]

def seesWindow : Reading Bool := do
  match ← get with
  | l :: m :: _ =>
      return l.reads "over" && (m.reads "(" || m.isWideName || m.shape == .literal)
  | _ => return false

def seesFilter : Reading Bool := do
  match ← get with
  | l :: m :: _ => return l.reads "filter" && m.reads "("
  | _ => return false

def seesWindows : Reading Bool := do
  match ← get with
  | l :: m :: k :: _ =>
      return l.reads "window" && (m.isWideName || m.shape == .literal) && k.reads "as"
  | _ => return false

/-! ### Expressions -/

mutual

/-- **The expression that comes next**, with the operators that bind more tightly than a
strength. -/
def expr : Nat → Nat → Reading Expr
  | 0, _ => failure
  | n + 1, strength => do operators n strength (← operand n)

def exprs : Nat → Reading (List Expr)
  | 0 => failure
  | n + 1 => do
      let e ← expr n 0
      if ← perhaps [","] then return e :: (← exprs n) else return [e]

/-- Some expressions with commas between them, up to the parenthesis that closes the list, which may
be empty. -/
def listed : Nat → Reading (List Expr)
  | 0 => failure
  | n + 1 => do
      if ← perhaps [")"] then return []
      else
        let es ← exprs n
        expect [")"]
        return es

def operand : Nat → Reading Expr
  | 0 => failure
  | n + 1 => do
      let l ← next
      match l.shape with
      | .literal => if ← perhaps ["."] then column l else return .leaf (.text l.value)
      | .number _ => return .leaf (.number l.text)
      | .blob => return .leaf .blob
      | .variable => if isVariable l then return .leaf .variable else failure
      | _ =>
          if l.reads "null" then return .leaf .null
          else if l.readsAny clockWords then Expr.call? l.value [] []
          else if l.readsAny ["+", "-"] then (← operand n).signed? (l.reads "+")
          else if l.reads "~" then Expr.make? .operator [← operand n]
          else if l.reads "not" then Expr.make? .operator [← expr n negation]
          else if l.reads "(" then inParentheses n
          else if l.reads "case" then choice n
          else if l.reads "cast" then
            expect ["("]
            let e ← expr n 0
            expect ["as"]
            typeName
            expect [")"]
            return .node .cast [e]
          else if l.reads "exists" then
            expect ["("]
            let height ← select n
            expect [")"]
            Expr.make? (.existence height) []
          else if l.reads "raise" then giveUp
          else if !l.isWideName then failure
          else if ← perhaps ["("] then call n l
          else if ← perhaps ["."] then column l
          else return .leaf (.name l)

/-- The rest of something in parentheses: an expression, a row, or a query. -/
def inParentheses : Nat → Reading Expr
  | 0 => failure
  | n + 1 => do
      if ← seesWord queryWords then
        let height ← select n
        expect [")"]
        Expr.make? (.query height) []
      else
        let es ← exprs n
        expect [")"]
        match es with
        | [e] => return e
        | es => Expr.make? .row es

def choice : Nat → Reading Expr
  | 0 => failure
  | n + 1 => do
      let base ← if ← seesWord ["when"] then pure [] else pure [← expr n 0]
      let es ← branches n
      Expr.make? (.choice (!base.isEmpty)) (base ++ es)

def branches : Nat → Reading (List Expr)
  | 0 => failure
  | n + 1 => do
      expect ["when"]
      let e ← expr n 0
      expect ["then"]
      let f ← expr n 0
      if ← seesWord ["when"] then return e :: f :: (← branches n)
      else if ← perhaps ["else"] then
        let g ← expr n 0
        expect ["end"]
        return [e, f, g]
      else
        expect ["end"]
        return [e, f]

def call : Nat → Lexeme → Reading Expr
  | 0, _ => failure
  | n + 1, l => do
      let distinct ← seesWord ["distinct"]
      let starred ← perhaps ["*"]
      let _ ← if starred then pure false else perhaps ["distinct", "all"]
      let args ← if starred || (← seesWord [")", "order"]) then pure [] else exprs n
      let order ← if starred then pure [] else ordering n
      expect [")"]
      let e ← Expr.call? l.value args order
      let filtered ← seesFilter
      if filtered then
        expectAll ["filter", "(", "where"]
        let _ ← expr n 0
        expect [")"]
      let windowed ← seesWindow
      if windowed then windowUse n
      if windowed && (distinct || (!order.isEmpty && !args.isEmpty)) then failure
      else if filtered || windowed then
        return .node (.call ⟨l.value, args.length, true⟩) e.parts
      else return e

def ordering : Nat → Reading (List Expr)
  | 0 => failure
  | n + 1 => do
      if ← perhaps ["order"] then
        expect ["by"]
        sorted n
      else return []

def sorted : Nat → Reading (List Expr)
  | 0 => failure
  | n + 1 => do
      let e ← expr n 0
      let _ ← perhaps ["asc", "desc"]
      if ← perhaps ["nulls"] then expect ["first", "last"]
      if ← perhaps [","] then return e :: (← sorted n) else return [e]

/-- The operators that bind more tightly than a strength, after an operand. -/
def operators : Nat → Nat → Expr → Reading Expr
  | 0, _, _ => failure
  | n + 1, strength, e => do
      match (← get).head? with
      | none => return e
      | some l =>
          match binary? l with
          | some s =>
              if strength < s then
                let l ← next
                let f ← expr n s
                operators n strength (← operate? l e f)
              else return e
          | none =>
              if l.reads "collate" then
                let _ ← next
                let order ← plainName
                operators n strength (.node (.collate order.value) [e])
              else if l.reads "not" ∧ strength ≤ negation then
                let _ ← next
                if ← perhaps ["null"] then operators n strength (← Expr.make? .operator [e])
                else operators n strength (← comparison n true e)
              else if equality ≤ strength then return e
              else if l.readsAny ["isnull", "notnull"] then
                let _ ← next
                operators n strength (← Expr.make? .operator [e])
              else if l.reads "is" then
                let _ ← next
                operators n strength (← identity n e)
              else if l.readsAny (["between", "in"] ++ likeWords) then
                operators n strength (← comparison n false e)
              else return e

def identity : Nat → Expr → Reading Expr
  | 0, _ => failure
  | n + 1, e => do
      let _ ← perhaps ["not"]
      if ← perhaps ["distinct"] then expect ["from"]
      e.is? (← expr n equality)

/-- A comparison with a pattern, with bounds or with a list, after an operand. -/
def comparison : Nat → Bool → Expr → Reading Expr
  | 0, _, _ => failure
  | n + 1, negated, e => do
      let l ← next
      if l.readsAny likeWords then
        let f ← expr n equality
        let args ← if ← perhaps ["escape"] then pure [f, e, ← expr n equality] else pure [f, e]
        (← Expr.call? l.value args []).negated? negated
      else if l.reads "between" then
        let low ← expr n conjunction
        expect ["and"]
        let high ← expr n equality
        (← Expr.make? .between [e, low, high]).negated? negated
      else if l.reads "in" then
        if ← perhaps ["("] then
          if ← seesWord queryWords then
            let height ← select n
            expect [")"]
            (← Expr.make? (.query height) [e]).negated? negated
          else e.among? negated (← listed n)
        else
          let _ ← name
          if ← perhaps ["."] then let _ ← name
          if ← perhaps ["("] then let _ ← listed n
          (← Expr.make? (.query 1) [e]).negated? negated
      else failure

-- Windows

def windowUse : Nat → Reading Unit
  | 0 => failure
  | n + 1 => do
      expect ["over"]
      if ← perhaps ["("] then window n
      else
        let _ ← name

def window : Nat → Reading Unit
  | 0 => failure
  | n + 1 => do
      let words := ["partition", "order", "range", "rows", "groups"]
      let _ ← take? fun l => !l.readsAny words && (l.isWideName || l.shape == .literal)
      if ← perhaps ["partition"] then
        expect ["by"]
        let _ ← exprs n
      let _ ← ordering n
      if ← perhaps ["range", "rows", "groups"] then
        if ← perhaps ["between"] then
          let first ← edge n "preceding"
          expect ["and"]
          let last ← edge n "following"
          if first.reaches last then exclusion else failure
        else
          let first ← edge n "preceding"
          if first.reaches .current then exclusion else failure
      expect [")"]

def edge : Nat → String → Reading Edge
  | 0, _ => failure
  | n + 1, unbounded => do
      if ← perhaps ["current"] then
        expect ["row"]
        return .current
      else if ← perhaps ["unbounded"] then
        expect [unbounded]
        return if unbounded = "preceding" then .preceding else .following
      else
        let _ ← expr n 0
        if ← perhaps ["preceding"] then return .preceding
        else
          expect ["following"]
          return .following

-- Queries

/-- **A query that comes next**; gives how high its expressions are. -/
def select : Nat → Reading Nat
  | 0 => failure
  | n + 1 => do
      if ← perhaps ["with"] then
        let _ ← perhaps ["recursive"]
        commonTables n []
      compound n

/-- Tables that are defined for one query; some have the names `names`. -/
def commonTables : Nat → List String → Reading Unit
  | 0, _ => failure
  | n + 1, names => do
      let l ← name
      if names.any (sameName l.value) then failure
      if ← perhaps ["("] then nameList (← get).length
      expect ["as"]
      materialized
      expect ["("]
      let _ ← select n
      expect [")"]
      if ← perhaps [","] then commonTables n (l.value :: names)

/-- Queries that are put together.  Only the last one is ordered, or limited. -/
def compound : Nat → Reading Nat
  | 0 => failure
  | n + 1 => do
      let (height, isLast) ← if ← perhaps ["values"] then
          pure (← rows n none, false)
        else
          expect ["select"]
          simpleSelect n
      if ← seesWord ["union", "except", "intersect"] then
        let l ← next
        if l.reads "union" then
          let _ ← perhaps ["all"]
        if isLast then failure
        return max height (← compound n)
      else return height

/-- Rows of values.  Those that are the same for every row of an answer are put together as they are
read, and have to have the same number of columns; `width` is that of the rows before, if this row
can be put together with them. -/
def rows : Nat → Option Nat → Reading Nat
  | 0, _ => failure
  | n + 1, width => do
      expect ["("]
      let es ← exprs n
      expect [")"]
      let isFixed := es.all (·.isFixed)
      if isFixed && width.any (· ≠ es.length) then failure
      let width := if isFixed && width.isSome then width
        else if isFixed && !es.any (·.isCast) then some es.length
        else none
      let height := Expr.heightOf es.length es
      if ← perhaps [","] then return max height (← rows n width) else return height

/-- The rest of a single query; gives also whether it is ordered or limited. -/
def simpleSelect : Nat → Reading (Nat × Bool)
  | 0 => failure
  | n + 1 => do
      let _ ← perhaps ["distinct", "all"]
      let results ← resultColumns n
      if ← perhaps ["from"] then tables n true
      let condition ← if ← perhaps ["where"] then pure [← expr n 0] else pure []
      let groups ← if ← perhaps ["group"] then expect ["by"]; exprs n else pure []
      let having ← if ← perhaps ["having"] then pure [← expr n 0] else pure []
      if ← seesWindows then windows n
      let order ← ordering n
      let limit ← limits n
      let es := condition ++ groups ++ having ++ order ++ limit
      return (max results (Expr.heightOf es.length es), !order.isEmpty || !limit.isEmpty)

def limits : Nat → Reading (List Expr)
  | 0 => failure
  | n + 1 => do
      if ← perhaps ["limit"] then
        let e ← expr n 0
        let es ← if ← perhaps [",", "offset"] then pure [e, ← expr n 0] else pure [e]
        return [← Expr.make? .operator es]
      else return []

/-- The columns of the answer to a query; gives how high they are. -/
def resultColumns : Nat → Reading Nat
  | 0 => failure
  | n + 1 => do
      let height ← match ← get with
        | l :: m :: k :: ls =>
            if l.reads "*" then set (m :: k :: ls); pure 1
            else if (l.isWideName || l.shape == .literal) && m.reads "." && k.reads "*" then
              set ls
              pure 2
            else resultColumn n
        | _ => resultColumn n
      if ← perhaps [","] then return max height (← resultColumns n) else return height

def resultColumn : Nat → Reading Nat
  | 0 => failure
  | n + 1 => do
      let e ← expr n 0
      if !(← seesWindows) then otherName
      return e.height

def tables : Nat → Bool → Reading Unit
  | 0, _ => failure
  | n + 1, isFirst => do
      table n
      if ← perhaps ["on"] then
        if isFirst then failure
        let _ ← expr n 0
      else if ← perhaps ["using"] then
        if isFirst then failure
        expect ["("]
        nameList (← get).length
      if ← join then tables n false

def table : Nat → Reading Unit
  | 0 => failure
  | n + 1 => do
      if ← perhaps ["("] then
        if ← seesWord queryWords then
          let _ ← select n
        else tables n true
        expect [")"]
        if !(← seesWindows) then otherName
      else
        let _ ← name
        if ← perhaps ["."] then let _ ← name
        if ← perhaps ["("] then
          let _ ← listed n
          if !(← seesWindows) then otherName
        else
          if !(← seesWindows) then otherName
          if ← perhaps ["indexed"] then
            expect ["by"]
            let _ ← name
          else if ← perhaps ["not"] then expect ["indexed"]

def windows : Nat → Reading Unit
  | 0 => failure
  | n + 1 => do
      let _ ← perhaps ["window"]
      let _ ← name
      expect ["as"]
      expect ["("]
      window n
      if ← perhaps [","] then windows n

end

/-- A number of steps that is larger than those that the next lexemes allow. -/
def steps : Reading Nat := return 16 * ((← get).length + 1)

/-- **An expression that comes next**, as a whole. -/
def expression : Reading Expr := do expr (← steps) 0

end Reading

end Sqlite

end Conform

/-
**The lexemes of a declaration.**

The text of a declaration is cut into words, quoted names, literals, numbers, blobs, variables and
signs, each with the blanks and comments before it, so that a part of the declaration can be kept
exactly as it was written.

Main definitions:

* `Lexeme` — a lexeme and the gap before it;
* `Lexeme.scan` — **the lexemes of the first statement of a text**, and the rest of the text;
* `Lexeme.isName` — the lexemes that stand for names;
* `Lexeme.span` — the text of some lexemes, from the first to the last.
-/

import Conform.Text.Cut
import Conform.Text.Hex
import Conform.Text.Quoted

set_option relaxedAutoImplicit false
set_option autoImplicit false

namespace Conform

namespace Sqlite

inductive Shape
  | word
  /-- A name in double quotes, backticks or brackets. -/
  | quoted
  | literal
  /-- A number, and whether underscores separate its digits. -/
  | number (separated : Bool)
  | blob
  /-- A value that is given with the statement. -/
  | variable
  | sign
  deriving DecidableEq, Repr

/-- **A lexeme**: its shape, the blanks and comments before it, and its text. -/
structure Lexeme where
  shape : Shape
  gap : List Char
  text : List Char
  deriving DecidableEq, Repr

namespace Lexeme

/-! ### Gaps -/

def isBlankStart (c : Char) : Bool :=
  c == ' ' || c == '\t' || c == '\n' || c == '\x0c' || c == '\r'

def isBlank (c : Char) : Bool := isBlankStart c || c == '\x0b'

/-- The length of the rest of a comment that ends in a star and a slash; it may be unfinished. -/
def commentLength : List Char → Nat
  | '*' :: '/' :: _ => 2
  | _ :: s => commentLength s + 1
  | [] => 0

def blankLength : List Char → Nat
  | '-' :: '-' :: s => 2 + (s.takeWhile (· != '\n')).length
  | '/' :: '*' :: s => 2 + commentLength s
  | c :: s =>
      if isBlankStart c then 1 + (s.takeWhile isBlank).length
      else if c = '\ufeff' then 1 else 0
  | [] => 0

/-- The length of the gap that a text begins with, of at most `n` runs and comments. -/
def gapLength : Nat → List Char → Nat
  | 0, _ => 0
  | n + 1, s =>
      if blankLength s = 0 then 0 else blankLength s + gapLength n (s.drop (blankLength s))

/-! ### Shapes -/

def isWordStart (c : Char) : Bool := c.isAlpha || c == '_' || 0x80 ≤ c.toNat

def isWordChar (c : Char) : Bool := isWordStart c || c.isDigit || c == '$'

/-- The length of the rest of a quoted text, with the quote that ends it; a quote written twice
does not end it. -/
def quotedLength? (quote : Char) : List Char → Option Nat
  | [] => none
  | c :: s =>
      if c = quote then
        match s with
        | [] => some 1
        | d :: s => if d = quote then (quotedLength? quote s).map (· + 2) else some 1
      else (quotedLength? quote s).map (· + 1)

def digitsLength (isDigit : Char → Bool) (s : List Char) : Nat :=
  (s.takeWhile fun c => isDigit c || c == '_').length

def exponentLength : List Char → Nat
  | e :: c :: s =>
      if e = 'e' ∨ e = 'E' then
        if c.isDigit then 2 + digitsLength Char.isDigit s
        else match s with
          | d :: _ =>
              if (c = '+' ∨ c = '-') ∧ d.isDigit then 2 + digitsLength Char.isDigit s else 0
          | [] => 0
      else 0
  | _ => 0

def fractionLength : List Char → Nat
  | '.' :: s => 1 + digitsLength Char.isDigit s
  | _ => 0

/-- The length of the number that a text begins with, and its digits: in hexadecimal after `0x`,
and otherwise in decimal with a fraction and an exponent. -/
def numberLength (s : List Char) : Nat × (Char → Bool) :=
  let decimal :=
    let whole := digitsLength Char.isDigit s
    let point := whole + fractionLength (s.drop whole)
    (point + exponentLength (s.drop point), Char.isDigit)
  match s with
  | '0' :: x :: d :: rest =>
      if (x = 'x' ∨ x = 'X') ∧ Text.isHexDigit d then
        (3 + digitsLength Text.isHexDigit rest, Text.isHexDigit)
      else decimal
  | _ => decimal

/-- Whether each underscore stands between two digits, given the character before the text. -/
def isSeparated (isDigit : Char → Bool) : Char → List Char → Bool
  | _, [] => true
  | before, c :: s =>
      (c != '_' || (isDigit before && s.head?.any isDigit)) && isSeparated isDigit c s

/-- The length of the name of a variable that a text begins with; `named` tells whether some of the
name was read already. -/
def variableLength? (named : Bool) : List Char → Option Nat
  | [] => if named then some 0 else none
  | ':' :: ':' :: s => (variableLength? named s).map (· + 2)
  | c :: s =>
      if isWordChar c then (variableLength? true s).map (· + 1)
      else if !named then none
      else if c = '(' then
        let inside := s.takeWhile fun c => !isBlank c && c != ')'
        if (s.drop inside.length).head? = some ')' then some (inside.length + 2) else none
      else some 0

/-- The signs, with each one before those that it begins with. -/
def signs : List String :=
  ["->>", "->", "||", "<=", "<>", "<<", ">=", ">>", "==", "!=", "(", ")", "+", "-", "*", "/", "%",
    "=", "<", ">", "&", "|", "~", ",", ".", ";"]

/-- The number that a text begins with, if it is well formed and no word follows it directly. -/
def number? (s : List Char) : Option (Shape × Nat) :=
  let (n, isDigit) := numberLength s
  if (s.drop n).head?.any isWordChar || !isSeparated isDigit ' ' (s.take n) then none
  else some (.number ((s.take n).contains '_'), n)

/-- The shape and the length of the lexeme that a text begins with; none if there is none. -/
def shape? : List Char → Option (Shape × Nat)
  | [] => none
  | c :: s =>
      let quoted := fun (shape : Shape) => (quotedLength? c s).map fun n => (shape, n + 1)
      if c.isDigit || (c == '.' && s.head?.any Char.isDigit) then number? (c :: s)
      else if (c = 'x' ∨ c = 'X') ∧ s.head? = some '\x27' then
        let digits := s.tail.takeWhile Text.isHexDigit
        if (s.drop (digits.length + 1)).head? = some '\x27' ∧ digits.length % 2 = 0 then
          some (.blob, digits.length + 3)
        else none
      else if isWordStart c then some (.word, 1 + (s.takeWhile isWordChar).length)
      else if c = '?' then some (.variable, 1 + (s.takeWhile Char.isDigit).length)
      else if c = '$' ∨ c = '@' ∨ c = '#' ∨ c = ':' then
        (variableLength? false s).map fun n => (.variable, n + 1)
      else if c = '\x27' then quoted .literal
      else if c = '\x22' ∨ c = '\x60' then quoted .quoted
      else if c = '[' then
        if s.contains ']' then some (.quoted, (Text.before ']' s).length + 2) else none
      else (signs.find? fun w => w.toList.isPrefixOf (c :: s)).map fun w => (.sign, w.length)

/-! ### Scanning -/

/-- The lexemes of a text up to the semicolon that ends a statement, at most `n` of them, and the
rest of the text. -/
def scanFrom : Nat → List Char → Option (List Lexeme × List Char)
  | 0, s => if s.isEmpty then some ([], []) else none
  | n + 1, s =>
      let gap := gapLength s.length s
      let rest := s.drop gap
      if rest.isEmpty then some ([], s)
      else match shape? rest with
        | none => none
        | some (shape, length) =>
            let l : Lexeme := ⟨shape, s.take gap, rest.take length⟩
            if l.text = [';'] then some ([l], rest.drop length)
            else (scanFrom n (rest.drop length)).map fun r => (l :: r.1, r.2)

/-- **The lexemes of the first statement of a text**, with the semicolon at its end if it has one,
and the rest of the text; none if some part of the statement is no lexeme. -/
def scan (s : List Char) : Option (List Lexeme × List Char) := scanFrom (s.length + 1) s

def write (ls : List Lexeme) : List Char := ls.flatMap fun l => l.gap ++ l.text

/-! ### What lexemes stand for -/

/-- Whether a lexeme is a keyword, which is given in small letters, or a sign. -/
def reads (l : Lexeme) (w : String) : Bool :=
  match l.shape with
  | .word => Text.lower l.text == w.toList
  | .sign => l.text == w.toList
  | _ => false

def readsAny (l : Lexeme) (ws : List String) : Bool := ws.any l.reads

/-- The keywords that are no names, but for those of `joinWords`. -/
def reservedWords : List String :=
  ["add", "all", "alter", "and", "as", "autoincrement", "between", "case", "check", "collate",
    "commit", "constraint", "create", "default", "deferrable", "delete", "distinct", "drop",
    "else", "escape", "except", "exists", "foreign", "from", "group", "having", "in", "index",
    "insert", "intersect", "into", "is", "isnull", "join", "limit", "not", "nothing", "notnull",
    "null", "on", "or", "order", "primary", "references", "returning", "select", "set", "table",
    "then", "to", "transaction", "union", "unique", "update", "using", "values", "when", "where"]

/-- The keywords that are names of columns and functions, but not of types and values. -/
def joinWords : List String :=
  ["cross", "full", "indexed", "inner", "left", "natural", "outer", "right"]

/-- **Whether a lexeme stands for the name** of a column or of a function. -/
def isWideName (l : Lexeme) : Bool :=
  match l.shape with
  | .quoted => true
  | .word => !l.readsAny reservedWords
  | _ => false

/-- **Whether a lexeme stands for the name** of a type or of a value. -/
def isName (l : Lexeme) : Bool := l.isWideName && !l.readsAny joinWords

def value (l : Lexeme) : String :=
  match l.shape, l.text with
  | .quoted, '[' :: s => String.ofList s.dropLast
  | .quoted, quote :: s | .literal, quote :: s => String.ofList (Text.undouble quote s)
  | _, s => String.ofList s

/-- **The text of some lexemes**, from the first to the last. -/
def span : List Lexeme → List Char
  | [] => []
  | l :: ls => l.text ++ write ls

end Lexeme

end Sqlite

end Conform

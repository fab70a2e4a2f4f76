/-
**Tokens of JSON texts.**

The scanner is a machine that takes one character at a time.  It is strict: only space, tab, line
feed and carriage return separate tokens, control characters must be escaped, and numbers have no
leading zeros.

Main definitions:

* `Json.Token` — the tokens; numbers are only checked for their form;
* `Json.Reading`, `Json.step` — what the scanner is in the middle of, and its steps;
* `Json.resolve` — the characters of a string, if no half of a surrogate pair stands alone;
* `Json.scan` — **the tokens of a text**.
-/

import Conform.Text.Hex

set_option relaxedAutoImplicit false
set_option autoImplicit false

namespace Conform

namespace Json

/-- **A token of JSON.**  A string has no content if half of a surrogate pair stands alone in it. -/
inductive Token
  | openBrace
  | closeBrace
  | openBracket
  | closeBracket
  | colon
  | comma
  | null
  | bool (b : Bool)
  | number
  | string (content : Option (List Char))
  deriving DecidableEq, Repr

/-! ### Strings -/

/-- What stands for one place of a string: a character, or half of a surrogate pair. -/
inductive CodeUnit
  | char (c : Char)
  | high (n : Nat)
  | low (n : Nat)
  deriving DecidableEq, Repr

/-- What four hexadecimal digits stand for. -/
def CodeUnit.ofNat (n : Nat) : CodeUnit :=
  if 0xD800 ≤ n ∧ n < 0xDC00 then high (n - 0xD800)
  else if 0xDC00 ≤ n ∧ n < 0xE000 then low (n - 0xDC00)
  else char (Char.ofNat n)

def pair (h l : Nat) : Char := Char.ofNat (0x10000 + h * 0x400 + l)

/-- **The characters of a string**, if every half of a surrogate pair has its other half. -/
def resolve : List CodeUnit → Option (List Char)
  | [] => some []
  | .char c :: rest => (resolve rest).map (c :: ·)
  | .high h :: .low l :: rest => (resolve rest).map (pair h l :: ·)
  | .high _ :: _ => none
  | .low _ :: _ => none

def escaped? (c : Char) : Option Char :=
  if c = '\x22' ∨ c = '\\' ∨ c = '/' then some c
  else if c = 'b' then some '\x08'
  else if c = 'f' then some '\x0c'
  else if c = 'n' then some '\n'
  else if c = 'r' then some '\r'
  else if c = 't' then some '\t'
  else none

/-! ### Numbers -/

inductive NumberPart
  | minus
  | zero
  | whole
  | point
  | fraction
  | exponent
  | exponentSign
  | exponentDigits
  deriving DecidableEq, Repr

def NumberPart.complete : NumberPart → Bool
  | zero | whole | fraction | exponentDigits => true
  | minus | point | exponent | exponentSign => false

/-- The part of a number that a character goes on with, if it belongs to the number. -/
def NumberPart.next? (p : NumberPart) (c : Char) : Option NumberPart :=
  let digit := c.isDigit
  let e := c = 'e' ∨ c = 'E'
  match p with
  | minus => if c = '0' then some zero else if digit then some whole else none
  | zero => if c = '.' then some point else if e then some exponent else none
  | whole =>
      if digit then some whole else if c = '.' then some point
      else if e then some exponent else none
  | point => if digit then some fraction else none
  | fraction => if digit then some fraction else if e then some exponent else none
  | exponent =>
      if digit then some exponentDigits else if c = '+' ∨ c = '-' then some exponentSign else none
  | exponentSign => if digit then some exponentDigits else none
  | exponentDigits => if digit then some exponentDigits else none

/-! ### The scanner -/

/-- **What the scanner is in the middle of.**  What is read so far is kept last first. -/
inductive Reading
  | between
  | word (read : List Char)
  | number (part : NumberPart)
  | string (read : List CodeUnit)
  | escape (read : List CodeUnit)
  /-- Hexadecimal digits are read: `left` more of them are to come after the next one. -/
  | hex (read : List CodeUnit) (left value : Nat)
  deriving DecidableEq, Repr

def isGap (c : Char) : Bool := c == ' ' || c == '\t' || c == '\n' || c == '\r'

def wordToken? (read : List Char) : Option Token :=
  if read = ['e', 'u', 'r', 't'] then some (.bool true)
  else if read = ['e', 's', 'l', 'a', 'f'] then some (.bool false)
  else if read = ['l', 'l', 'u', 'n'] then some .null
  else none

def start (c : Char) : Option (Reading × List Token) :=
  if isGap c then some (.between, [])
  else if c = '\x7b' then some (.between, [.openBrace])
  else if c = '\x7d' then some (.between, [.closeBrace])
  else if c = '[' then some (.between, [.openBracket])
  else if c = ']' then some (.between, [.closeBracket])
  else if c = ':' then some (.between, [.colon])
  else if c = ',' then some (.between, [.comma])
  else if c = '\x22' then some (.string [], [])
  else if c = '-' then some (.number .minus, [])
  else if c = '0' then some (.number .zero, [])
  else if c.isDigit then some (.number .whole, [])
  else if c.isLower then some (.word [c], [])
  else none

def startAfter (t : Token) (c : Char) : Option (Reading × List Token) :=
  (start c).map fun r => (r.1, t :: r.2)

/-- **One step of the scanner**: what it is in the middle of afterwards, and the tokens that are
complete; none if the character cannot stand here. -/
def step : Reading → Char → Option (Reading × List Token)
  | .between, c => start c
  | .word read, c =>
      if c.isLower then some (.word (c :: read), [])
      else (wordToken? read).bind fun t => startAfter t c
  | .number part, c =>
      match part.next? c with
      | some next => some (.number next, [])
      | none => if part.complete then startAfter .number c else none
  | .string read, c =>
      if c = '\x22' then some (.between, [.string (resolve read.reverse)])
      else if c = '\\' then some (.escape read, [])
      else if c.toNat < 0x20 then none
      else some (.string (.char c :: read), [])
  | .escape read, c =>
      if c = 'u' then some (.hex read 3 0, [])
      else (escaped? c).map fun x => (.string (.char x :: read), [])
  | .hex read left value, c =>
      (Text.hexDigit? c).map fun x =>
        match left with
        | 0 => (.string (CodeUnit.ofNat (16 * value + x) :: read), [])
        | n + 1 => (.hex read n (16 * value + x), [])

/-- The tokens that the end of the text completes. -/
def finish : Reading → Option (List Token)
  | .between => some []
  | .word read => (wordToken? read).map ([·])
  | .number part => if part.complete then some [.number] else none
  | .string _ | .escape _ | .hex _ _ _ => none

/-- The scanner in the middle of a text: the tokens so far are kept last first. -/
abbrev Progress : Type := Reading × List Token

def advance (p : Option Progress) (c : Char) : Option Progress :=
  p.bind fun p => (step p.1 c).map fun r => (r.1, r.2.reverse ++ p.2)

/-- **The tokens of a text**, if it consists of tokens. -/
def scan (s : List Char) : Option (List Token) :=
  (s.foldl advance (some (.between, []))).bind fun p =>
    (finish p.1).map fun ts => p.2.reverse ++ ts

end Json

end Conform

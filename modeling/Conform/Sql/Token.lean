/-
**SQL text: tokens, how they are written, and how they are read back.**

A statement is laid out as a list of pieces: tokens, the blanks between them, and text that the
configuration supplies verbatim.  A dialect fixes how names and literals are quoted.  The scanner
goes the other way, one character at a time, by the lexical rules of the dialect.

Main definitions:

* `Sql.Token` — words, marks, quoted names, string literals;
* `Sql.Piece` — a token, blanks, or verbatim text;
* `Sql.write` — the text of a layout in a dialect;
* `Sql.tokens` — the tokens of a layout;
* `Sql.scan` — the tokens of a text, if every quote is closed.
-/

import Conform.Dialect
import Conform.Text.Quoted

set_option relaxedAutoImplicit false
set_option autoImplicit false

namespace Conform

namespace Sql

/-! ### Tokens and layouts -/

/-- **A token of SQL.**  Names and literals are given by the text that they stand for. -/
inductive Token
  /-- A keyword, a number, or any other run of letters, digits and underscores. -/
  | word (text : String)
  | mark (c : Char)
  | name (text : String)
  | literal (text : String)
  deriving DecidableEq, Repr

/-- **A piece of a layout.** -/
inductive Piece
  | token (t : Token)
  | gap (blanks : String)
  /-- Text that the configuration supplies, unquoted. -/
  | verbatim (text : String)
  deriving DecidableEq, Repr

abbrev Layout : Type := List Piece

def space : Piece := .gap " "

/-- Words with a space after each of them. -/
def words (ws : List String) : Layout := ws.flatMap fun w => [.token (.word w), space]

/-- The last words of a layout: spaces stand only between them. -/
def lastWords (ws : List String) : Layout :=
  [space].intercalate (ws.map fun w => [.token (.word w)])

def word (w : String) : Piece := .token (.word w)

def mark (c : Char) : Piece := .token (.mark c)

def name (s : String) : Piece := .token (.name s)

def literal (s : String) : Piece := .token (.literal s)

/-! ### Writing -/

def nameQuote : Dialect → Char
  | .mysql | .sqlite => '\x60'
  | .postgres => '\x22'

def literalQuote : Char := '\x27'

def quoteName (d : Dialect) (s : List Char) : List Char :=
  nameQuote d :: (Text.double (nameQuote d) s ++ [nameQuote d])

/-- The inside of a literal: quotes are doubled, and under MySQL backslashes too, since they would
escape the next character there. -/
def escapeLiteral (d : Dialect) (s : List Char) : List Char :=
  match d with
  | .mysql => Text.double literalQuote (Text.double '\\' s)
  | .postgres | .sqlite => Text.double literalQuote s

def quoteLiteral (d : Dialect) (s : List Char) : List Char :=
  literalQuote :: (escapeLiteral d s ++ [literalQuote])

def Token.write (d : Dialect) : Token → List Char
  | word text => text.toList
  | mark c => [c]
  | name text => quoteName d text.toList
  | literal text => quoteLiteral d text.toList

def Piece.write (d : Dialect) : Piece → List Char
  | token t => t.write d
  | gap blanks => blanks.toList
  | verbatim text => text.toList

def chars (d : Dialect) (l : Layout) : List Char := l.flatMap (Piece.write d)

@[simp] theorem chars_nil (d : Dialect) : chars d [] = [] := rfl

@[simp] theorem chars_cons (d : Dialect) (p : Piece) (l : Layout) :
    chars d (p :: l) = p.write d ++ chars d l := rfl

@[simp] theorem chars_append (d : Dialect) (l m : Layout) :
    chars d (l ++ m) = chars d l ++ chars d m := List.flatMap_append

/-- **The text of a layout.** -/
def write (d : Dialect) (l : Layout) : String := String.ofList (chars d l)

@[simp] theorem toList_write (d : Dialect) (l : Layout) : (write d l).toList = chars d l :=
  String.toList_ofList

theorem write_append (d : Dialect) (l m : Layout) : write d (l ++ m) = write d l ++ write d m := by
  apply String.ext; simp

/-- **The tokens of a layout.** -/
def tokens (l : Layout) : List Token :=
  l.filterMap fun
    | .token t => some t
    | _ => none

/-! ### Scanning -/

def isGap (c : Char) : Bool :=
  c == ' ' || c == '\n' || c == '\t' || c == '\r' || c == '\x0c'

def isWordChar (c : Char) : Bool := c.isAlphanum || c == '_'

/-- **What the scanner is in the middle of.**  The characters read so far are kept last first. -/
inductive Reading
  | between
  | word (read : List Char)
  | name (read : List Char)
  /-- A quote was read in a name: it ends the name unless a second one follows. -/
  | nameQuote (read : List Char)
  | literal (read : List Char)
  /-- A quote was read in a literal: it ends the literal unless a second one follows. -/
  | literalQuote (read : List Char)
  /-- A backslash was read in a literal in which it escapes the next character. -/
  | escape (read : List Char)
  deriving DecidableEq, Repr

/-- The token that a run of characters, last first, makes. -/
def Token.ofRead (make : String → Token) (read : List Char) : Token :=
  make (String.ofList read.reverse)

def start (d : Dialect) (c : Char) : Reading × List Token :=
  if isGap c then (.between, [])
  else if isWordChar c then (.word [c], [])
  else if c = nameQuote d then (.name [], [])
  else if c = literalQuote then (.literal [], [])
  else (.between, [.mark c])

/-- Whether a backslash escapes the next character of a literal. -/
def escapes (d : Dialect) : Bool :=
  match d with
  | .mysql => true
  | .postgres | .sqlite => false

/-- **One step of the scanner**: what it is in the middle of afterwards, and the tokens that are
complete. -/
def step (d : Dialect) : Reading → Char → Reading × List Token
  | .between, c => start d c
  | .word read, c =>
      if isWordChar c then (.word (c :: read), [])
      else ((start d c).1, Token.ofRead .word read :: (start d c).2)
  | .name read, c =>
      if c = nameQuote d then (.nameQuote read, []) else (.name (c :: read), [])
  | .nameQuote read, c =>
      if c = nameQuote d then (.name (c :: read), [])
      else ((start d c).1, Token.ofRead .name read :: (start d c).2)
  | .literal read, c =>
      if c = literalQuote then (.literalQuote read, [])
      else if escapes d && c == '\\' then (.escape read, [])
      else (.literal (c :: read), [])
  | .literalQuote read, c =>
      if c = literalQuote then (.literal (c :: read), [])
      else ((start d c).1, Token.ofRead .literal read :: (start d c).2)
  | .escape read, c => (.literal (c :: read), [])

/-- The token that the end of the text completes; inside quotes it completes none. -/
def finish : Reading → Option (List Token)
  | .between => some []
  | .word read => some [Token.ofRead .word read]
  | .nameQuote read => some [Token.ofRead .name read]
  | .literalQuote read => some [Token.ofRead .literal read]
  | .name _ | .literal _ | .escape _ => none

def scanFrom (d : Dialect) : Reading → List Char → Option (List Token)
  | reading, [] => finish reading
  | reading, c :: s =>
      (scanFrom d (step d reading c).1 s).map fun ts => (step d reading c).2 ++ ts

/-- **The tokens of a text**, if every quote is closed. -/
def scan (d : Dialect) (s : String) : Option (List Token) := scanFrom d .between s.toList

end Sql

end Conform

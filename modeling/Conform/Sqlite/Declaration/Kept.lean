/-
**What a schema keeps of a declaration.**

The type and the default of a column are kept as they were written, with these exceptions: the
standard names of types are kept in capitals, of a type that begins with a quote only what is
quoted is kept, the words `GENERATED ALWAYS` at its end are not kept, and neither are the
parentheses around a default nor the blanks inside them.
-/

import Conform.Sqlite.Database
import Conform.Sqlite.Lexeme

set_option relaxedAutoImplicit false
set_option autoImplicit false

namespace Conform

namespace Sqlite

/-! ### Types -/

def trimEnd (s : List Char) : List Char := (s.reverse.dropWhile Lexeme.isBlank).reverse

def trim (s : List Char) : List Char := trimEnd (s.dropWhile Lexeme.isBlank)

/-- The text without a word at its end and the blanks before the word, if it ends in that word. -/
def withoutLast? (word : String) (s : List Char) : Option (List Char) :=
  if word.toList.isSuffixOf (Text.lower s) then some (trimEnd (s.take (s.length - word.length)))
  else none

/-- A type without the words `GENERATED ALWAYS` at its end, if it has at least sixteen bytes. -/
def withoutGenerated (s : List Char) : List Char :=
  if (String.ofList s).utf8ByteSize < 16 then s
  else match withoutLast? "always" s with
    | none => s
    | some s => (withoutLast? "generated" s).getD s

def isQuote (c : Char) : Bool := c == '\x22' || c == '\x27' || c == '\x60' || c == '['

/-- A type without the bytes at its ends, if it begins with a quote and has no other; none if the
last byte is a part of a character. -/
def unquoted? (s : List Char) : Option (List Char) :=
  match s with
  | c :: rest =>
      if isQuote c && !rest.dropLast.any isQuote then
        if rest.getLast?.any (·.utf8Size = 1) then some rest.dropLast else none
      else some s
  | [] => some []

/-- What a text stands for if it begins with a quote: what is between that and the quote that closes
it. -/
def dequoted (s : List Char) : List Char :=
  match s with
  | c :: rest => if isQuote c then Text.undouble (if c = '[' then ']' else c) rest else s
  | [] => []

/-- **What a schema keeps of a type**, if that is a text. -/
def keptType? (s : List Char) : Option String :=
  let s := withoutGenerated s
  (if (String.ofList s).utf8ByteSize < 3 then some s else unquoted? s).map fun s =>
    (standardTypes.find? (sameName (String.ofList s))).getD (String.ofList (dequoted s))

/-! ### Defaults -/

/-- **What a schema keeps of a default**, of the lexemes that it was written in. -/
def keptDefault (ls : List Lexeme) : String :=
  match ls with
  | l :: rest =>
      if l.reads "(" then String.ofList (trim ((Lexeme.write rest).dropLast))
      else String.ofList (Lexeme.span ls)
  | [] => ""

end Sqlite

end Conform

/-
**Reported column defaults.**

Databases report the default of a column as SQL text.  It is brought to one form before it is
compared: a literal loses its quotes, a written null is no default, anything else is kept.
PostgreSQL also adds casts and parentheses.
-/

import Conform.Text.Blank
import Conform.Text.Cut
import Conform.Text.Quoted

set_option relaxedAutoImplicit false
set_option autoImplicit false

namespace Conform

namespace Live

/-! ### The form that is compared -/

/-- **The form of a reported default**: trimmed, a literal without its quotes, and a null in any
letter case left out. -/
def plainDefault (raw : String) : Option String :=
  let s := Text.trim raw.toList
  if Text.lower s = ['n', 'u', 'l', 'l'] then none
  else match s with
    | '\x27' :: rest => some (String.ofList (Text.undouble '\x27' rest))
    | s => some (String.ofList s)

def beforeCast : List Char → List Char
  | ':' :: ':' :: _ => []
  | c :: s => c :: beforeCast s
  | [] => []

/-- The text without the parentheses that open it and those that close it. -/
def dropParentheses (s : List Char) : List Char :=
  ((s.dropWhile (· == '(')).reverse.dropWhile (· == ')')).reverse

/-- **The form of a reported default with casts and parentheses.**  A literal is read up to its
closing quote; of anything else the cast and the outer parentheses are left out. -/
def castDefault (raw : String) : Option String :=
  let s := Text.trim raw.toList
  match s with
  | '\x27' :: _ => plainDefault (String.ofList s)
  | s => plainDefault (String.ofList (dropParentheses (beforeCast s)))

end Live

end Conform

/-
**Type names of live columns.**

A database reports the type of a column in its own spelling.  Two spellings mean the same type
when they fold to the same keyword: letter case, surrounding blanks, a parenthesised part and the
words for unsigned numbers and for times without zone are left out, and synonyms are unified.
-/

import Conform.Numeral.Integer
import Conform.Text.Blank
import Conform.Text.Cut

set_option relaxedAutoImplicit false
set_option autoImplicit false

namespace Conform

namespace TypeName

/-! ### The keyword of a spelling -/

/-- The small letters of a spelling up to its first parenthesis, trimmed. -/
def bare (spelling : String) : List Char :=
  Text.trim (Text.before '(' (Text.lower (Text.trim spelling.toList)))

def plain (keyword : List Char) : List Char :=
  Text.trim (Text.dropRepeatedEnd " without time zone".toList
    (Text.dropRepeatedEnd " unsigned".toList keyword))

/-- The one keyword for the synonyms of a type. -/
def canonical (keyword : String) : String :=
  if keyword ∈ ["character varying", "varchar", "nvarchar"] then "varchar"
  else if keyword ∈ ["character", "char", "bpchar", "nchar"] then "char"
  else if keyword ∈ ["tinytext", "mediumtext", "longtext", "text"] then "text"
  else if keyword ∈ ["int8", "bigint"] then "bigint"
  else if keyword ∈ ["int", "int4", "integer"] then "integer"
  else if keyword ∈ ["int2", "smallint"] then "smallint"
  else keyword

/-- **The keyword of a spelling.** -/
def fold (spelling : String) : String := canonical (String.ofList (plain (bare spelling)))

/-! ### Comparing types -/

/-- **Whether two spellings mean the same type.** -/
def same (a b : String) : Bool := fold a == fold b

/-- Whether a spelling means a long text. -/
def isText (spelling : String) : Bool := fold spelling == "text"

/-- Whether a spelling means a string of bounded or fixed length. -/
def isString (spelling : String) : Bool := fold spelling == "varchar" || fold spelling == "char"

/-- The changes of type under which every value stays what it is. -/
def widenings : List (String × String) :=
  [("varchar", "text"), ("char", "varchar"), ("char", "text"), ("smallint", "integer"),
    ("smallint", "bigint"), ("integer", "bigint")]

/-- **Whether a change of type keeps every value** without rewriting the table. -/
def widens (live wanted : String) : Bool := (fold live, fold wanted) ∈ widenings

/-! ### Lengths -/

/-- **The length in the parentheses of a spelling**: the number before the first comma between the
first opening parenthesis and the next closing one. -/
def declaredLength? (spelling : String) : Option Nat :=
  (Text.cut '(' spelling.toList).bind fun (_, rest) =>
    (Text.cut ')' rest).bind fun (inside, _) =>
      Numeral.length? (Text.trim (Text.before ',' inside))

end TypeName

end Conform

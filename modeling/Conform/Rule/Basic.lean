/-
**Column rules: what a definition says of one column.**

A rule gives a column its label, its kind, bounds, a default, whether it is indexed, and a pattern
for values.  The upper bound of a bounded kind is the length of the column.
-/

import Conform.Numeral.Binary64
import Conform.Text.Cut

set_option relaxedAutoImplicit false
set_option autoImplicit false

namespace Conform

/-! ### Kinds -/

/-- **What a column holds.** -/
inductive Kind
  | string
  | number
  | text
  | arrayString
  | arrayText
  deriving DecidableEq, Repr

namespace Kind

/-- The kind that a rule names; arrays of strings have two names. -/
def ofName? (name : String) : Option Kind :=
  if name = "string" then some string
  else if name = "number" then some number
  else if name = "text" then some text
  else if name = "array" ∨ name = "array_string" then some arrayString
  else if name = "array_text" then some arrayText
  else none

def label : Kind → String
  | string => "string"
  | number => "number"
  | text => "text"
  | arrayString => "array"
  | arrayText => "array_text"

/-- The kinds whose upper bound is the length of the column. -/
def isBounded : Kind → Bool
  | string | arrayString => true
  | number | text | arrayText => false

def isText : Kind → Bool
  | text | arrayText => true
  | string | number | arrayString => false

theorem not_text_of_bounded {k : Kind} (h : k.isBounded = true) : k.isText = false := by
  cases k <;> simp_all [isBounded, isText]

end Kind

/-! ### Defaults -/

/-- **The default that a column shall have.** -/
inductive Default
  | absent
  | number (n : Int64)
  | text (s : String)
  deriving DecidableEq, Repr

namespace Default

/-- The default as messages show it; nothing is escaped. -/
def display : Default → String
  | absent => "NULL"
  | number n => toString n.toInt
  | text s => "'" ++ s ++ "'"

/-- The whole part of a numeral whose fraction, if it has one, is zero. -/
def wholePart? (s : List Char) : Option (List Char) :=
  match Text.cut '.' s with
  | none => some s
  | some (whole, fraction) => if fraction.all (· == '0') then some whole else none

/-- The integer of sixty-four bits that a reported default denotes. -/
def integerValue? (s : String) : Option Int64 :=
  (wholePart? (Text.trim s.toList)).bind Numeral.int64?

/-- **Whether a reported default is the wanted one.**  Numbers are compared as numbers, so that
`10.00` is ten; texts are compared exactly. -/
def agrees : Default → Option String → Bool
  | absent, none => true
  | number n, some live => integerValue? live == some n
  | text s, some live => s == live
  | _, _ => false

end Default

/-! ### Rules -/

/-- **The rule of one column.** -/
structure Rule where
  /-- What people call the column; it becomes the comment of the column. -/
  label : String
  kind : Kind
  lower : Option Binary64
  upper : Option Binary64
  default : Default
  indexed : Bool
  /-- The pattern of admissible values; it does not reach the database. -/
  pattern : Option String
  deriving DecidableEq, Repr

/-- The length of the column of a bounded kind, if the upper bound is a positive integer. -/
def Rule.length (r : Rule) : Option Nat :=
  if r.kind.isBounded then r.upper.bind Binary64.toLength? else none

end Conform

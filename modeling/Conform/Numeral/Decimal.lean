/-
**Decimal numerals with fraction and exponent.**

A numeral has an optional sign, digits with at most one point among or around them, and an
optional exponent; at least one digit is written before the exponent.
-/

import Conform.Numeral.Binary64

set_option relaxedAutoImplicit false
set_option autoImplicit false

namespace Conform

/-- A decimal numeral: `digits` in units of `10 ^ exponent`. -/
structure Decimal where
  negative : Bool
  digits : List Char
  exponent : Int
  deriving DecidableEq, Repr

namespace Decimal

def readSign : List Char → Bool × List Char
  | '-' :: s => (true, s)
  | '+' :: s => (false, s)
  | s => (false, s)

/-- The digits after a point, if a point comes next, and the text after them. -/
def readFraction : List Char → List Char × List Char
  | '.' :: s => (s.takeWhile Char.isDigit, s.dropWhile Char.isDigit)
  | s => ([], s)

/-- The exponent that a numeral ends with; none is written for zero. -/
def readExponent? : List Char → Option Int
  | [] => some 0
  | c :: s => if c = 'e' ∨ c = 'E' then Numeral.integer? s else none

/-- **The decimal numeral that a text is**, if it is one. -/
def read? (s : List Char) : Option Decimal :=
  let (negative, s) := readSign s
  let whole := s.takeWhile Char.isDigit
  let (fraction, s) := readFraction (s.dropWhile Char.isDigit)
  if whole.isEmpty && fraction.isEmpty then none
  else (readExponent? s).map fun e => ⟨negative, whole ++ fraction, e - fraction.length⟩

def coefficient (d : Decimal) : Nat := Nat.ofDigitChars 10 d.digits 0

/-- **The nearest binary64 number.**  From `10 ^ 311` on every number overflows, and below
`10 ^ -330` every number rounds to zero, so no power of ten beyond these is computed. -/
def toBinary64? (d : Decimal) : Option Binary64 :=
  if d.coefficient = 0 then some ⟨d.negative, 0⟩
  else if 310 < d.exponent then none
  else if d.exponent + d.digits.length < -330 then some ⟨d.negative, 0⟩
  else if 0 ≤ d.exponent then
    Binary64.ofQuotient? d.negative (d.coefficient * Nat.pow 10 d.exponent.toNat) 1
  else Binary64.ofQuotient? d.negative d.coefficient (Nat.pow 10 (-d.exponent).toNat)

end Decimal

/-- **The binary64 number that a text denotes**, if it is a numeral and does not overflow. -/
def Binary64.read? (s : List Char) : Option Binary64 :=
  (Decimal.read? s).bind Decimal.toBinary64?

end Conform

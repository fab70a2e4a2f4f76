/-
**Finite numbers of binary64, exactly.**

A finite binary64 number is a whole multiple of `2 ^ -1074`, so it is kept as a sign and that
multiple; zero has both signs.  Nothing here uses floating-point operations: rounding, order,
integrality and the conversion to a length are statements about natural numbers.
-/

import Conform.Numeral.Integer

set_option relaxedAutoImplicit false
set_option autoImplicit false

namespace Conform

/-- **A finite binary64 number**: a sign and a magnitude in units of `2 ^ -1074`. -/
structure Binary64 where
  negative : Bool
  units : Nat
  deriving DecidableEq, Repr

namespace Binary64

def one : Nat := Nat.pow 2 1074

theorem one_pos : 0 < one := by decide +kernel

/-- The first magnitude that is too large: `2 ^ 1024`, in units. -/
def overflow : Nat := Nat.pow 2 2098

/-! ### Rounding -/

/-- The distance between neighbouring numbers around a magnitude of `u` units: fifty-three
significant bits are kept, and below `2 ^ 53` units all of them. -/
def spacing (u : Nat) : Nat := Nat.pow 2 (Nat.log2 u - 52)

/-- **The representable magnitude nearest to `num / den` units.**  An exact half goes to the
neighbour that is an even multiple of the spacing. -/
def nearest (num den : Nat) : Nat :=
  let step := spacing (num / den)
  let q := num / (den * step)
  let r := num % (den * step)
  if den * step < 2 * r ∨ (2 * r = den * step ∧ q % 2 = 1) then (q + 1) * step else q * step

/-- The number nearest to `± num / den`, unless that overflows. -/
def ofQuotient? (negative : Bool) (num den : Nat) : Option Binary64 :=
  let u := nearest (num * one) den
  if u < overflow then some ⟨negative, u⟩ else none

/-! ### Order, integrality, length -/

/-- The value in units, with its sign; both zeros are `0`. -/
def value (x : Binary64) : Int := if x.negative then -(x.units : Int) else x.units

def lt (x y : Binary64) : Bool := x.value < y.value

def maxLength : Nat := Numeral.lengthLimit - 1

/-- **The number as a length.**  It has one if it is a positive integer; lengths saturate. -/
def toLength? (x : Binary64) : Option Nat :=
  if !x.negative && one ≤ x.units && x.units % one == 0 then
    some (min (x.units / one) maxLength)
  else none

theorem one_le_of_toLength? {x : Binary64} {n : Nat} (h : x.toLength? = some n) :
    1 ≤ n := by
  unfold toLength? at h
  split at h
  next hpositive =>
    have hone : one ≤ x.units := by
      simp only [Bool.and_eq_true, decide_eq_true_eq] at hpositive
      exact hpositive.1.2
    have hquotient : 1 ≤ x.units / one := Nat.div_pos hone one_pos
    obtain rfl := Option.some.inj h
    exact Nat.le_min.2 ⟨hquotient, by decide⟩
  · cases h

end Binary64

end Conform

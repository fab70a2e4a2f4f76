/-
**The shortest decimal that reads back.**

A binary64 number is written with the fewest digits of a decimal that rounds to it; of two such
decimals the nearer one is taken, and the larger when both are equally near.  The text is always
positional.
-/

import Conform.Numeral.Binary64

set_option relaxedAutoImplicit false
set_option autoImplicit false

namespace Conform

namespace Binary64

/-! ### What rounds to a number -/

/-- An interval of magnitudes, in quarters of a unit. -/
structure Reach where
  low : Nat
  high : Nat
  closed : Bool
  deriving DecidableEq, Repr

def Reach.has (i : Reach) (num den : Nat) : Bool :=
  if i.closed then i.low * den ≤ num && num ≤ i.high * den
  else i.low * den < num && num < i.high * den

/-- **The magnitudes that round to `u` units.**  Half a spacing on each side, and a quarter below
a power of two above the smallest spacing; the ends belong to it when `u` is an even multiple of
the spacing. -/
def reach (u : Nat) : Reach :=
  let step := spacing u
  let below := if u = Nat.pow 2 (Nat.log2 u) ∧ 2 ≤ step then step else 2 * step
  ⟨4 * u - below, 4 * u + 2 * step, (u / step) % 2 == 0⟩

/-! ### The decimal that is written -/

/-- Of the two multiples of `den` around `num`, as counts, those that are in the interval; the
nearer one if both are, the larger one if both are equally near. -/
def pick (i : Reach) (num den scale : Nat) : Option Nat :=
  let d := num / den
  let inside := fun n => i.has (4 * n * den) scale
  match inside d, inside (d + 1) with
  | true, true => some (if num - d * den < (d + 1) * den - num then d else d + 1)
  | true, false => some d
  | false, true => some (d + 1)
  | false, false => none

/-- The candidate on the grid of multiples of `10 ^ k` for a magnitude of `u` units. -/
def onGrid (u : Nat) (k : Int) : Option Nat :=
  if 0 ≤ k then pick (reach u) u (one * Nat.pow 10 k.toNat) 1
  else pick (reach u) (u * Nat.pow 10 (-k).toNat) one (Nat.pow 10 (-k).toNat)

/-- The least number of decimal places at which `u` units have a non-zero digit, from `j` on. -/
def firstPlace (u : Nat) : Nat → Nat → Nat
  | 0, j => j
  | n + 1, j => if one ≤ u * Nat.pow 10 j then j else firstPlace u n (j + 1)

/-- The power of ten of the first significant digit of `u` units. -/
def leadingPower (u : Nat) : Int :=
  if one ≤ u then ((Nat.toDigits 10 (u / one)).length : Int) - 1
  else -(firstPlace u 324 1 : Int)

/-- The first grid with a candidate, among those of `digits` significant digits and more. -/
def search (u : Nat) (power : Int) : Nat → Nat → Nat × Int
  | 0, digits => (u, power - digits + 1)
  | n + 1, digits =>
      match onGrid u (power - digits + 1) with
      | some d => (d, power - digits + 1)
      | none => search u power n (digits + 1)

/-- **The shortest decimal that rounds to `u` units**, as digits and a power of ten. -/
def shortest (u : Nat) : Nat × Int := search u (leadingPower u) 17 1

/-! ### Its text -/

def dropZeros (s : List Char) : List Char := (s.reverse.dropWhile (· == '0')).reverse

def positional (d : Nat) (k : Int) : List Char :=
  let digits := Nat.toDigits 10 d
  if 0 ≤ k then digits ++ List.replicate k.toNat '0'
  else
    let places := (-k).toNat
    let padded := List.replicate (places + 1 - digits.length) '0' ++ digits
    let whole := padded.take (padded.length - places)
    let fraction := dropZeros (padded.drop (padded.length - places))
    if fraction.isEmpty then whole else whole ++ '.' :: fraction

/-- **The text of a binary64 number**: the shortest decimal that reads back, positionally, with a
minus sign also before a negative zero. -/
def write (x : Binary64) : String :=
  let magnitude := if x.units = 0 then ['0'] else
    let (d, k) := shortest x.units
    positional d k
  String.ofList (if x.negative then '-' :: magnitude else magnitude)

end Binary64

end Conform

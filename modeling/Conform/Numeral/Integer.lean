/-
**Decimal integers, read from text.**

An integer is written with an optional sign and at least one ASCII digit; leading zeros are
allowed and nothing else is.  The bounded readers refuse what does not fit instead of wrapping.
-/

set_option relaxedAutoImplicit false
set_option autoImplicit false

namespace Conform

namespace Numeral

def natural? (s : List Char) : Option Nat :=
  if !s.isEmpty && s.all Char.isDigit then some (Nat.ofDigitChars 10 s 0) else none

theorem natural?_toDigits (n : Nat) : natural? (Nat.toDigits 10 n) = some n := by
  have hall : (Nat.toDigits 10 n).all Char.isDigit = true :=
    List.all_eq_true.2 fun _ h => Nat.isDigit_of_mem_toDigits (by decide) (by decide) h
  have hne : (Nat.toDigits 10 n).isEmpty = false := by
    have := Nat.length_toDigits_pos (b := 10) (n := n)
    cases h : Nat.toDigits 10 n with
    | nil => simp [h] at this
    | cons => rfl
  rw [natural?, hall, hne]
  simp [Nat.ofDigitChars_toDigits]

/-- **The integer that a numeral with an optional sign denotes.** -/
def integer? : List Char → Option Int
  | '-' :: s => (natural? s).map fun n => -(n : Int)
  | '+' :: s => (natural? s).map fun n => (n : Int)
  | s => (natural? s).map fun n => (n : Int)

/-- **The integer of sixty-four bits that a numeral denotes**, if it is from `-2 ^ 63` up and below
`2 ^ 63`. -/
def int64? (s : List Char) : Option Int64 :=
  (integer? s).bind fun v =>
    if -9223372036854775808 ≤ v ∧ v < 9223372036854775808 then some (Int64.ofInt v) else none

/-- The first number past the lengths: `2 ^ 64`. -/
def lengthLimit : Nat := 18446744073709551616

/-- **The length that a numeral denotes**: a natural number below `2 ^ 64`, perhaps after a plus
sign. -/
def length? (s : List Char) : Option Nat :=
  let digits := match s with
    | '+' :: r => r
    | r => r
  (natural? digits).bind fun n => if n < lengthLimit then some n else none

end Numeral

end Conform

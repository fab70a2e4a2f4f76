/-
**Which decimals are finite binary64 numbers.**

Rounding does not leave the binade of a number, but for the power of two above it.  The largest
finite number is `2 ^ 1024 - 2 ^ 971`; halfway between it and `2 ^ 1024` the power of two is the
even neighbour, so a decimal is finite exactly below `2 ^ 1024 - 2 ^ 970`.

Main definitions:

* `Binary64.limit` — the first magnitude that is not finite;
* `Decimal.magnitude` — the number that a decimal denotes, without its sign.

Main results:

* `Binary64.le_nearest`, `Binary64.nearest_le` — rounding keeps to powers of two;
* `Binary64.nearest_lt_iff` — which quotients stay below a power of two;
* `Binary64.exists_ofQuotient?_iff` — which quotients do not overflow;
* `Decimal.toBinary64?_eq` — a decimal is rounded as a quotient, whatever its exponent is;
* `Decimal.exists_toBinary64?_iff` — **the decimals that are finite numbers**.
-/

import Mathlib.Algebra.Order.Field.Power
import Mathlib.Data.Rat.Cast.Order
import Mathlib.Tactic.GCongr
import Mathlib.Tactic.Positivity
import Mathlib.Tactic.Ring
import Conform.Proofs.Numeral.Grammar

set_option relaxedAutoImplicit false
set_option autoImplicit false

namespace Conform

/-! ### Rounding in a binade -/

namespace Binary64

variable {num den k t : Nat}

/-- The spacing of the numbers below a power of two divides it. -/
theorem exists_mul_spacing {u : Nat} (h : Nat.log2 u ≤ k) : ∃ m, 2 ^ k = m * spacing u := by
  refine ⟨2 ^ (k - (Nat.log2 u - 52)), ?_⟩
  change 2 ^ k = _ * 2 ^ (Nat.log2 u - 52)
  rw [← Nat.pow_add]
  congr 1
  omega

theorem spacing_pos (u : Nat) : 0 < spacing u := Nat.pow_pos (by decide)

/-- **A number is rounded to one of the two multiples of the spacing around it.** -/
theorem nearest_mem (num den : Nat) :
    nearest num den = num / den / spacing (num / den) * spacing (num / den) ∨
      nearest num den = (num / den / spacing (num / den) + 1) * spacing (num / den) := by
  simp only [nearest, ← Nat.div_div_eq_div_mul]
  split
  · exact .inr rfl
  · exact .inl rfl

/-- A number that is not below a power of two is not rounded below it. -/
theorem le_nearest (h : 2 ^ k ≤ num / den) : 2 ^ k ≤ nearest num den := by
  have hne : num / den ≠ 0 := Nat.ne_of_gt (Nat.lt_of_lt_of_le (Nat.pow_pos (by decide)) h)
  have hk : k ≤ Nat.log2 (num / den) := (Nat.le_log2 hne).2 h
  obtain ⟨m, hm⟩ := exists_mul_spacing (u := num / den) (Nat.le_refl _)
  have hquotient : m ≤ num / den / spacing (num / den) :=
    (Nat.le_div_iff_mul_le (spacing_pos _)).2 (hm ▸ Nat.log2_self_le hne)
  calc 2 ^ k ≤ 2 ^ Nat.log2 (num / den) := Nat.pow_le_pow_right (by decide) hk
    _ = m * spacing (num / den) := hm
    _ ≤ num / den / spacing (num / den) * spacing (num / den) := Nat.mul_le_mul_right _ hquotient
    _ ≤ nearest num den := by
      rcases nearest_mem num den with h | h <;> rw [h]
      exact Nat.mul_le_mul_right _ (Nat.le_succ _)

/-- A number below a power of two is not rounded above it. -/
theorem nearest_le (h : num / den < 2 ^ k) : nearest num den ≤ 2 ^ k := by
  have hlog : Nat.log2 (num / den) ≤ k := by
    by_cases hne : num / den = 0
    · rw [hne]; exact Nat.zero_le _
    · exact Nat.le_of_lt ((Nat.log2_lt hne).2 h)
  obtain ⟨m, hm⟩ := exists_mul_spacing hlog
  have hquotient : num / den / spacing (num / den) < m :=
    (Nat.div_lt_iff_lt_mul (spacing_pos _)).2 (hm ▸ h)
  rw [hm]
  rcases nearest_mem num den with h | h <;> rw [h]
  · exact Nat.mul_le_mul_right _ (Nat.le_of_lt hquotient)
  · exact Nat.mul_le_mul_right _ hquotient

/-- **What is rounded up to the end of a binade.**  Of the `2 ^ 53` multiples of the spacing in a
binade only the last, which is odd, can be rounded to its end; it is, from its half on.  The spacing
is `2 * half` units, or `2 * p` before the division by the denominator. -/
theorem rounded_lt_iff {half p q r : Nat} (hhalf : 0 < half) (hq : q < 2 ^ 53) (hr : r < 2 * p) :
    (if 2 * p < 2 * r ∨ 2 * r = 2 * p ∧ q % 2 = 1 then (q + 1) * (2 * half)
      else q * (2 * half)) < 2 ^ 53 * (2 * half) ↔ 2 * (p * q) + r < (2 ^ 54 - 1) * p := by
  rcases Nat.lt_or_eq_of_le (Nat.le_sub_one_of_lt hq) with hbefore | rfl
  · have hle : (if 2 * p < 2 * r ∨ 2 * r = 2 * p ∧ q % 2 = 1 then (q + 1) * (2 * half)
        else q * (2 * half)) ≤ (q + 1) * (2 * half) := by
      split
      · exact Nat.le_refl _
      · exact Nat.mul_le_mul_right _ (Nat.le_succ q)
    have hup : (q + 1) * (2 * half) < 2 ^ 53 * (2 * half) :=
      Nat.mul_lt_mul_of_pos_right (by omega) (by omega)
    have hproduct : p * q ≤ p * (2 ^ 53 - 2) := Nat.mul_le_mul_left p (by omega)
    exact iff_of_true (Nat.lt_of_le_of_lt hle hup) (by omega)
  · split
    next hround => exact iff_of_false (by omega) (by omega)
    next hround => exact iff_of_true (by omega) (by omega)

theorem nearest_lt_of_log2 (hden : 0 < den) (ht : 53 ≤ t) (hlog : Nat.log2 (num / den) = t) :
    nearest num den < 2 ^ (t + 1) ↔ num < (2 ^ (t + 1) - 2 ^ (t - 53)) * den := by
  obtain ⟨half, hhalf⟩ : ∃ half, half = 2 ^ (t - 53) := ⟨_, rfl⟩
  have hpos : 0 < half := hhalf ▸ Nat.pow_pos (by decide)
  have hspacing : spacing (num / den) = 2 * half := by
    change 2 ^ (Nat.log2 (num / den) - 52) = 2 * half
    rw [hlog, hhalf, ← Nat.pow_succ']
    congr 1
    omega
  have htop : 2 ^ (t + 1) = 2 ^ 53 * (2 * half) := by
    rw [hhalf, ← Nat.pow_succ', ← Nat.pow_add]
    congr 1
    omega
  have hgap : 2 ^ (t + 1) - 2 ^ (t - 53) = (2 ^ 54 - 1) * half := by
    rw [htop, ← hhalf]
    omega
  -- the quotient by a spacing has fifty-three bits
  have hquotient : num / (den * (2 * half)) < 2 ^ 53 := by
    have hbelow : num / den < 2 ^ (t + 1) := hlog ▸ Nat.lt_log2_self
    rw [← Nat.div_div_eq_div_mul, Nat.div_lt_iff_lt_mul (by omega), ← htop]
    exact hbelow
  have hdouble : den * (2 * half) = 2 * (den * half) := by rw [Nat.mul_left_comm]
  have hdivision := Nat.div_add_mod num (den * (2 * half))
  have hremainder : num % (den * (2 * half)) < den * (2 * half) :=
    Nat.mod_lt _ (Nat.mul_pos hden (by omega))
  rw [hdouble] at hquotient hdivision hremainder
  rw [hgap, htop, Nat.mul_assoc, Nat.mul_comm half den]
  simp only [nearest, hspacing, hdouble]
  rw [rounded_lt_iff hpos hquotient hremainder, ← Nat.mul_assoc 2, hdivision]

/-- **Which quotients stay below a power of two.** -/
theorem nearest_lt_iff (hden : 0 < den) (ht : 53 ≤ t) :
    nearest num den < 2 ^ (t + 1) ↔ num < (2 ^ (t + 1) - 2 ^ (t - 53)) * den := by
  have hdouble : 2 ^ (t + 1) = 2 ^ t + 2 ^ t := by rw [Nat.pow_succ]; omega
  have hgap : 2 ^ (t - 53) < 2 ^ t := Nat.pow_lt_pow_right (by decide) (by omega)
  have hpos : 0 < 2 ^ t := Nat.pow_pos (by decide)
  by_cases hlow : num / den < 2 ^ t
  · have hnum : num < 2 ^ t * den := (Nat.div_lt_iff_lt_mul hden).1 hlow
    have hbound : 2 ^ t * den ≤ (2 ^ (t + 1) - 2 ^ (t - 53)) * den :=
      Nat.mul_le_mul_right den (by omega)
    have hnearest := nearest_le hlow
    exact iff_of_true (by omega) (by omega)
  by_cases hhigh : num / den < 2 ^ (t + 1)
  · have hne : num / den ≠ 0 := by
      have hpos : 0 < 2 ^ t := Nat.pow_pos (by decide)
      omega
    have hbelow : Nat.log2 (num / den) < t + 1 := (Nat.log2_lt hne).2 hhigh
    have habove : t ≤ Nat.log2 (num / den) := (Nat.le_log2 hne).2 (Nat.le_of_not_lt hlow)
    exact nearest_lt_of_log2 hden ht (by omega)
  · have hnum : 2 ^ (t + 1) * den ≤ num :=
      (Nat.le_div_iff_mul_le hden).1 (Nat.le_of_not_lt hhigh)
    have hbound : (2 ^ (t + 1) - 2 ^ (t - 53)) * den ≤ 2 ^ (t + 1) * den :=
      Nat.mul_le_mul_right den (Nat.sub_le _ _)
    have hnearest := le_nearest (Nat.le_of_not_lt hhigh)
    exact iff_of_false (by omega) (by omega)

theorem one_eq : one = 2 ^ 1074 := by decide +kernel

theorem overflow_eq : overflow = 2 ^ (2097 + 1) := by decide +kernel

theorem sub_pow_mul_pow (a b c den : Nat) :
    (2 ^ a - 2 ^ b) * den * 2 ^ c = (2 ^ (a + c) - 2 ^ (b + c)) * den := by
  rw [Nat.mul_right_comm, Nat.sub_mul, ← Nat.pow_add, ← Nat.pow_add]

/-- **The first magnitude that is rounded up to `2 ^ 1024`.**  It lies halfway between the largest
finite number and that power. -/
def limit : Nat := 2 ^ 1024 - 2 ^ 970

theorem nearest_lt_overflow_iff (hden : 0 < den) :
    nearest (num * one) den < overflow ↔ num < limit * den := by
  have hunits : limit * den * one = (2 ^ (2097 + 1) - 2 ^ (2097 - 53)) * den := by
    rw [limit, one_eq, sub_pow_mul_pow]
  have hbelow : nearest (num * one) den < 2 ^ (2097 + 1) ↔
      num * one < (2 ^ (2097 + 1) - 2 ^ (2097 - 53)) * den := nearest_lt_iff hden (by decide)
  rw [← hunits, Nat.mul_lt_mul_right one_pos] at hbelow
  rw [overflow_eq]
  exact hbelow

/-- **Which quotients do not overflow.** -/
theorem exists_ofQuotient?_iff {negative : Bool} (hden : 0 < den) :
    (∃ x, ofQuotient? negative num den = some x) ↔ num < limit * den := by
  rw [← nearest_lt_overflow_iff hden, ofQuotient?]
  by_cases h : nearest (num * one) den < overflow <;> simp [h]

/-- Less than half a unit is rounded to zero. -/
theorem nearest_eq_zero (h : 2 * num < den) : nearest num den = 0 := by
  have hquotient : num / den = 0 := Nat.div_eq_of_lt (by omega)
  have hspacing : spacing 0 = 1 := rfl
  have hdown : ¬(den < 2 * num ∨ 2 * num = den ∧ 0 % 2 = 1) := by omega
  simp only [nearest, hquotient, hspacing, Nat.mul_one, Nat.mod_eq_of_lt (by omega : num < den),
    if_neg hdown]

theorem ofQuotient?_eq_none_iff {negative : Bool} (hden : 0 < den) :
    ofQuotient? negative num den = none ↔ limit * den ≤ num := by
  have hfinite : (∃ x, ofQuotient? negative num den = some x) ↔ num < limit * den :=
    exists_ofQuotient?_iff hden
  rw [← Nat.not_lt, ← hfinite]
  cases ofQuotient? negative num den <;> simp

end Binary64

/-! ### Decimals -/

namespace Decimal

open Binary64

/-- **The number that a decimal denotes**, without its sign. -/
def magnitude (d : Decimal) : ℚ := d.coefficient * 10 ^ d.exponent

/-- A run of digits denotes less than a power of ten. -/
theorem ofDigitChars_lt {s : List Char} (hdigits : ∀ c ∈ s, c.isDigit = true) (init : Nat) :
    Nat.ofDigitChars 10 s init < (init + 1) * 10 ^ s.length := by
  induction s generalizing init with
  | nil => simp
  | cons c r ih =>
      obtain ⟨-, hc⟩ := toNat_of_isDigit (hdigits c (List.mem_cons_self ..))
      have hzero : '0'.toNat = 48 := rfl
      have hrest := ih (fun c hc => hdigits c (List.mem_cons_of_mem _ hc))
        (10 * init + (c.toNat - '0'.toNat))
      rw [Nat.ofDigitChars_cons, List.length_cons, Nat.pow_succ']
      refine Nat.lt_of_lt_of_le hrest ?_
      rw [← Nat.mul_assoc]
      exact Nat.mul_le_mul_right _ (by omega)

theorem Spells.digits {s : List Char} {d : Decimal} (h : Spells s d) :
    ∀ c ∈ d.digits, c.isDigit = true := by
  obtain ⟨-, hwhole, hpoint, -, -⟩ := h
  intro c hc
  rcases List.mem_append.1 hc with hc | hc
  · exact hwhole c hc
  · exact hpoint.digits c hc

variable {d : Decimal}

/-- The digits of a decimal over a power of ten that takes up its exponent. -/
theorem magnitude_eq_div (d : Decimal) :
    d.magnitude =
      (d.coefficient * 10 ^ d.exponent.toNat : ℕ) / (10 ^ (-d.exponent).toNat : ℕ) := by
  rcases Int.le_total 0 d.exponent with h | h
  · obtain ⟨n, hn⟩ := Int.eq_ofNat_of_zero_le h
    have hpower : (-(n : ℤ)).toNat = 0 := by omega
    rw [magnitude, hn, Int.toNat_natCast, hpower, zpow_natCast]
    push_cast
    rw [div_one]
  · obtain ⟨n, hn⟩ : ∃ n : ℕ, d.exponent = -(n : ℤ) := ⟨(-d.exponent).toNat, by omega⟩
    have hpower : (-(n : ℤ)).toNat = 0 := by omega
    rw [magnitude, hn, neg_neg, Int.toNat_natCast, hpower, zpow_neg, zpow_natCast, div_eq_mul_inv]
    push_cast
    rw [mul_one]

/-- **The two ways out before rounding change nothing**: very large exponents overflow, and very
small ones are rounded to zero. -/
theorem toBinary64?_eq (hdigits : ∀ c ∈ d.digits, c.isDigit = true) :
    d.toBinary64? = ofQuotient? d.negative (d.coefficient * 10 ^ d.exponent.toNat)
      (10 ^ (-d.exponent).toNat) := by
  have hzeros : ∀ {num den : Nat}, nearest (num * one) den = 0 →
      ofQuotient? d.negative num den = some ⟨d.negative, 0⟩ := by
    intro num den h
    rw [ofQuotient?, h, if_pos (by decide +kernel)]
  unfold toBinary64?
  by_cases hzero : d.coefficient = 0
  · rw [if_pos hzero, hzero, Nat.zero_mul, hzeros]
    refine nearest_eq_zero ?_
    rw [Nat.zero_mul, Nat.mul_zero]
    exact Nat.pow_pos (by decide)
  by_cases hlarge : 310 < d.exponent
  · have hpower : (-d.exponent).toNat = 0 := by omega
    have hover : limit * 1 ≤ d.coefficient * 10 ^ d.exponent.toNat :=
      calc limit * 1 ≤ 1 * 10 ^ 311 := by decide +kernel
        _ ≤ d.coefficient * 10 ^ d.exponent.toNat :=
          Nat.mul_le_mul (Nat.one_le_iff_ne_zero.2 hzero)
            (Nat.pow_le_pow_right (by decide) (by omega))
    rw [if_neg hzero, if_pos hlarge, hpower, eq_comm]
    exact (ofQuotient?_eq_none_iff Nat.one_pos).2 hover
  by_cases hsmall : d.exponent + d.digits.length < -330
  · have hpower : d.exponent.toNat = 0 := by omega
    have hbelow : d.coefficient < (0 + 1) * 10 ^ d.digits.length := ofDigitChars_lt hdigits 0
    rw [Nat.zero_add, Nat.one_mul] at hbelow
    have hgap : 2 * one < 10 ^ 330 := by decide +kernel
    have hunder : 2 * (d.coefficient * 1 * one) < 10 ^ (-d.exponent).toNat :=
      calc 2 * (d.coefficient * 1 * one) = d.coefficient * (2 * one) := by ring
        _ ≤ 10 ^ d.digits.length * (2 * one) := Nat.mul_le_mul_right _ hbelow.le
        _ < 10 ^ d.digits.length * 10 ^ 330 :=
          Nat.mul_lt_mul_of_pos_left hgap (by positivity)
        _ = 10 ^ (d.digits.length + 330) := (pow_add ..).symm
        _ ≤ 10 ^ (-d.exponent).toNat := Nat.pow_le_pow_right (by decide) (by omega)
    rw [if_neg hzero, if_neg hlarge, if_pos hsmall, hpower, Nat.pow_zero, hzeros]
    exact nearest_eq_zero hunder
  rw [if_neg hzero, if_neg hlarge, if_neg hsmall]
  split
  next hsign =>
    have hpower : (-d.exponent).toNat = 0 := by omega
    rw [hpower]
    rfl
  next hsign =>
    have hpower : d.exponent.toNat = 0 := by omega
    rw [hpower, Nat.pow_zero, Nat.mul_one]
    rfl

/-- **The decimals that are finite numbers.** -/
theorem exists_toBinary64?_iff {s : List Char} (h : Spells s d) :
    (∃ x, d.toBinary64? = some x) ↔ d.magnitude < Binary64.limit := by
  have hpower : 0 < 10 ^ (-d.exponent).toNat := Nat.pow_pos (by decide)
  have hcast : (0 : ℚ) < (10 ^ (-d.exponent).toNat : ℕ) := by exact_mod_cast hpower
  rw [toBinary64?_eq h.digits, exists_ofQuotient?_iff hpower, magnitude_eq_div, div_lt_iff₀ hcast,
    ← Nat.cast_mul, Nat.cast_lt]

end Decimal

/-- **Which texts are finite numbers**: the decimals below the limit. -/
theorem Binary64.exists_read?_iff {s : List Char} :
    (∃ x, Binary64.read? s = some x) ↔
      ∃ d, Decimal.Spells s d ∧ d.magnitude < Binary64.limit := by
  simp only [Binary64.read?, Option.bind_eq_some_iff, Decimal.read?_eq_some_iff]
  constructor
  · rintro ⟨x, d, hspells, hfinite⟩
    exact ⟨d, hspells, (Decimal.exists_toBinary64?_iff hspells).1 ⟨x, hfinite⟩⟩
  · rintro ⟨d, hspells, hbelow⟩
    obtain ⟨x, hx⟩ := (Decimal.exists_toBinary64?_iff hspells).2 hbelow
    exact ⟨x, d, hspells, hx⟩

/-- The limit lies between these two decimals. -/
example : (Binary64.read? "1.7976931348623158e308".toList).isSome = true ∧
    Binary64.read? "1.7976931348623159e308".toList = none := by decide +kernel

end Conform

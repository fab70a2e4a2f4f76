/-
**Rounding is correct.**

A magnitude is rounded to the nearest one that has fifty-three significant bits; of two that are
equally near, the one whose last bit is zero is taken.  This determines the result, and the result
is what is computed from a quotient and a remainder.

Main definitions:

* `Binary64.Representable`, `Binary64.EndsEven` — magnitudes of fifty-three bits, and those whose
  last bit is zero;
* `Binary64.IsRounded` — **what a magnitude is rounded to**.

Main results:

* `Binary64.le_or_le_of_representable` — nothing of fifty-three bits lies between the two neighbours
  of a quotient;
* `Binary64.isRounded_iff` — **a quotient is rounded to the computed magnitude**, and to no other;
* `Binary64.toLength?_nearest` — integers are rounded to integers, and so they are lengths.
-/

import Mathlib.Algebra.Order.Group.Unbundled.Abs
import Mathlib.Tactic.FieldSimp
import Mathlib.Tactic.Linarith
import Mathlib.Tactic.Ring
import Conform.Proofs.Numeral.Finite

set_option relaxedAutoImplicit false
set_option autoImplicit false

namespace Conform

namespace Binary64

/-! ### What rounding is -/

/-- **The magnitudes of fifty-three significant bits**, in units. -/
def Representable (u : Nat) : Prop := ∃ m k, m < 2 ^ 53 ∧ u = m * 2 ^ k

/-- The magnitudes of fifty-three significant bits whose last bit is zero. -/
def EndsEven (u : Nat) : Prop := ∃ m k, m < 2 ^ 53 ∧ m % 2 = 0 ∧ u = m * 2 ^ k

/-- **What a magnitude is rounded to**: the nearest one of fifty-three bits, and of two that are
equally near the one whose last bit is zero. -/
structure IsRounded (x : ℚ) (u : Nat) : Prop where
  representable : Representable u
  nearest : ∀ v, Representable v → |x - u| ≤ |x - v|
  even : ∀ v, Representable v → v ≠ u → |x - v| = |x - u| → EndsEven u

/-! ### The two neighbours of a magnitude -/

section Neighbours

variable {x : ℚ} {low high u : Nat} (hlow : Representable low) (hhigh : Representable high)
  (hgap : ∀ v, Representable v → v ≤ low ∨ high ≤ v) (hleft : (low : ℚ) ≤ x) (hright : x < high)

include hgap hleft hright in
/-- A magnitude of fifty-three bits is on the side of one of the two neighbours, and as far away as
that one only if it is that one. -/
theorem neighbour_nearest {v : Nat} (hv : Representable v) :
    (|x - v| = x - v ∧ x - low ≤ x - v ∧ (x - v ≤ x - low → v = low)) ∨
      (|x - v| = v - x ∧ high - x ≤ v - x ∧ (v - x ≤ high - x → v = high)) := by
  rcases hgap v hv with h | h
  · have hcast : (v : ℚ) ≤ low := by exact_mod_cast h
    refine .inl ⟨abs_of_nonneg (by linarith), by linarith, fun hnear => ?_⟩
    have hback : (low : ℚ) ≤ v := by linarith
    exact Nat.le_antisymm h (by exact_mod_cast hback)
  · have hcast : (high : ℚ) ≤ v := by exact_mod_cast h
    refine .inr ⟨?_, by linarith, fun hnear => ?_⟩
    · rw [abs_sub_comm]
      exact abs_of_nonneg (by linarith)
    · have hback : (v : ℚ) ≤ high := by linarith
      exact Nat.le_antisymm (by exact_mod_cast hback) h

include hlow hhigh hgap hleft hright in
/-- **Between two neighbours a magnitude is rounded to the nearer one**, or to the even one. -/
theorem isRounded_iff_of_neighbours :
    IsRounded x u ↔
      u = low ∧ (x - low < high - x ∨ x - low = high - x ∧ EndsEven low) ∨
        u = high ∧ (high - x < x - low ∨ x - low = high - x ∧ EndsEven high) := by
  have hbelow : |x - low| = x - low := abs_of_nonneg (by linarith)
  have habove : |x - high| = high - x := by
    rw [abs_sub_comm]
    exact abs_of_nonneg (by linarith)
  have hne : low ≠ high := by
    rintro rfl
    linarith
  constructor
  · intro h
    have hnearlow := h.nearest low hlow
    have hnearhigh := h.nearest high hhigh
    rw [hbelow] at hnearlow
    rw [habove] at hnearhigh
    rcases neighbour_nearest hgap hleft hright h.representable with ⟨hu, -, hsame⟩ | ⟨hu, -, hsame⟩
    · obtain rfl := hsame (hu ▸ hnearlow)
      rw [hu] at hnearhigh
      refine .inl ⟨rfl, hnearhigh.lt_or_eq.imp_right fun htie => ⟨htie, ?_⟩⟩
      exact h.even high hhigh hne.symm (by rw [hbelow, habove, htie])
    · obtain rfl := hsame (hu ▸ hnearhigh)
      rw [hu] at hnearlow
      refine .inr ⟨rfl, hnearlow.lt_or_eq.imp_right fun htie => ⟨htie.symm, ?_⟩⟩
      exact h.even low hlow hne (by rw [hbelow, habove, htie])
  · rintro (⟨rfl, hnear⟩ | ⟨rfl, hnear⟩)
    · have hle : x - u ≤ high - x := hnear.elim le_of_lt fun htie => htie.1.le
      refine ⟨hlow, fun v hv => ?_, fun v hv hother hfar => ?_⟩
      · rcases neighbour_nearest hgap hleft hright hv with ⟨hd, hfar, -⟩ | ⟨hd, hfar, -⟩ <;>
          rw [hd, hbelow] <;> linarith
      · rcases neighbour_nearest hgap hleft hright hv with ⟨hd, -, hsame⟩ | ⟨hd, hbeyond, -⟩
        · exact absurd (hsame (by linarith)) hother
        · exact (hnear.resolve_left (by linarith)).2
    · have hle : u - x ≤ x - low := hnear.elim le_of_lt fun htie => htie.1.ge
      refine ⟨hhigh, fun v hv => ?_, fun v hv hother hfar => ?_⟩
      · rcases neighbour_nearest hgap hleft hright hv with ⟨hd, hfar, -⟩ | ⟨hd, hfar, -⟩ <;>
          rw [hd, habove] <;> linarith
      · rcases neighbour_nearest hgap hleft hright hv with ⟨hd, hbeyond, -⟩ | ⟨hd, -, hsame⟩
        · exact (hnear.resolve_left (by linarith)).2
        · exact absurd (hsame (by linarith)) hother

end Neighbours

/-! ### Quotients -/

variable {num den : Nat}

/-- A number is less than `2 ^ 53` spacings. -/
theorem div_spacing_lt (u : Nat) : u / spacing u < 2 ^ 53 := by
  rw [Nat.div_lt_iff_lt_mul (spacing_pos u)]
  calc u < 2 ^ (Nat.log2 u + 1) := Nat.lt_log2_self
    _ ≤ 2 ^ (53 + (Nat.log2 u - 52)) := Nat.pow_le_pow_right (by decide) (by omega)
    _ = 2 ^ 53 * spacing u := Nat.pow_add ..

/-- A number whose spacing is more than a unit is `2 ^ 52` spacings or more. -/
theorem le_div_spacing {u : Nat} (h : 52 < Nat.log2 u) : 2 ^ 52 ≤ u / spacing u := by
  have hne : u ≠ 0 := by
    rintro rfl
    cases h
  rw [Nat.le_div_iff_mul_le (spacing_pos u)]
  calc 2 ^ 52 * spacing u = 2 ^ (52 + (Nat.log2 u - 52)) := (Nat.pow_add ..).symm
    _ = 2 ^ Nat.log2 u := by congr 1; omega
    _ ≤ u := Nat.log2_self_le hne

/-- **Nothing of fifty-three bits lies between the two neighbours of a number.** -/
theorem le_or_le_of_representable (u : Nat) {v : Nat} (hv : Representable v) :
    v ≤ u / spacing u * spacing u ∨ (u / spacing u + 1) * spacing u ≤ v := by
  obtain ⟨m, k, hm, rfl⟩ := hv
  by_cases hk : Nat.log2 u - 52 ≤ k
  · -- a multiple of the spacing
    have hmultiple : m * 2 ^ k = m * 2 ^ (k - (Nat.log2 u - 52)) * spacing u := by
      change _ = _ * 2 ^ (Nat.log2 u - 52)
      rw [Nat.mul_assoc, ← Nat.pow_add, Nat.sub_add_cancel hk]
    rw [hmultiple]
    rcases Nat.lt_or_ge (u / spacing u) (m * 2 ^ (k - (Nat.log2 u - 52))) with h | h
    · exact .inr (Nat.mul_le_mul_right _ h)
    · exact .inl (Nat.mul_le_mul_right _ h)
  · -- too few bits to come up to the lower neighbour
    have hlong := le_div_spacing (u := u) (by omega)
    refine .inl ?_
    calc m * 2 ^ k ≤ 2 ^ 53 * 2 ^ (Nat.log2 u - 52 - 1) :=
        Nat.mul_le_mul hm.le (Nat.pow_le_pow_right (by decide) (by omega))
      _ = 2 ^ 52 * spacing u := by
        change _ = 2 ^ 52 * 2 ^ (Nat.log2 u - 52)
        rw [← Nat.pow_add, ← Nat.pow_add]
        congr 1
        omega
      _ ≤ u / spacing u * spacing u := Nat.mul_le_mul_right _ hlong

theorem representable_mul_pow {q : Nat} (hq : q ≤ 2 ^ 53) (e : Nat) :
    Representable (q * 2 ^ e) := by
  rcases Nat.lt_or_eq_of_le hq with h | rfl
  · exact ⟨q, e, h, rfl⟩
  · exact ⟨1, 53 + e, by decide, by rw [Nat.one_mul, Nat.pow_add]⟩

/-- **Which multiples of a power of two end with a zero bit**: the even ones, where the multiples
have all fifty-three bits or the power is one. -/
theorem endsEven_mul_pow_iff {q e : Nat} (hq : q ≤ 2 ^ 53) (hlong : e ≠ 0 → 2 ^ 52 ≤ q) :
    EndsEven (q * 2 ^ e) ↔ q % 2 = 0 := by
  constructor
  · rintro ⟨m, k, hm, heven, heq⟩
    rcases Nat.lt_or_ge k e with hk | hk
    · -- the even multiple would have more than fifty-three bits
      have hproduct : m = q * 2 ^ (e - k) := by
        refine Nat.eq_of_mul_eq_mul_right (Nat.pow_pos (by decide) : 0 < 2 ^ k) ?_
        rw [← heq, Nat.mul_assoc, ← Nat.pow_add, Nat.sub_add_cancel hk.le]
      have htwice : q * 2 ≤ m := by
        rw [hproduct]
        exact Nat.mul_le_mul_left q (Nat.le_self_pow (by omega) 2)
      have := hlong (by omega)
      omega
    · have hproduct : q = m * 2 ^ (k - e) := by
        refine Nat.eq_of_mul_eq_mul_right (Nat.pow_pos (by decide) : 0 < 2 ^ e) ?_
        rw [heq, Nat.mul_assoc, ← Nat.pow_add, Nat.sub_add_cancel hk]
      rw [hproduct, Nat.mul_mod, heven, Nat.zero_mul, Nat.zero_mod]
  · intro heven
    rcases Nat.lt_or_eq_of_le hq with h | rfl
    · exact ⟨q, e, h, heven, rfl⟩
    · exact ⟨2, 52 + e, by decide, rfl, by rw [Nat.pow_add, ← Nat.mul_assoc, ← Nat.pow_succ']⟩

/-- **Rounding by a quotient and a remainder.** -/
theorem isRounded_division {q r e u : Nat} (hden : 0 < den) (hr : r < den * 2 ^ e)
    (hq : q < 2 ^ 53) (hlong : e ≠ 0 → 2 ^ 52 ≤ q)
    (hgap : ∀ v, Representable v → v ≤ q * 2 ^ e ∨ (q + 1) * 2 ^ e ≤ v) :
    IsRounded ((den * 2 ^ e * q + r : ℕ) / den) u ↔
      u = if den * 2 ^ e < 2 * r ∨ (2 * r = den * 2 ^ e ∧ q % 2 = 1) then (q + 1) * 2 ^ e
        else q * 2 ^ e := by
  have hpos : (0 : ℚ) < den := by exact_mod_cast hden
  have hbelow : ((den * 2 ^ e * q + r : ℕ) : ℚ) / den - (q * 2 ^ e : ℕ) = (r : ℚ) / den := by
    push_cast
    field_simp
    ring
  have habove : (((q + 1) * 2 ^ e : ℕ) : ℚ) - (den * 2 ^ e * q + r : ℕ) / den =
      ((den * 2 ^ e : ℕ) - r) / den := by
    push_cast
    field_simp
    ring
  have hrest : (r : ℚ) < (den * 2 ^ e : ℕ) := by exact_mod_cast hr
  have hleft : ((q * 2 ^ e : ℕ) : ℚ) ≤ (den * 2 ^ e * q + r : ℕ) / den := by
    rw [← sub_nonneg, hbelow]
    positivity
  have hright : ((den * 2 ^ e * q + r : ℕ) : ℚ) / den < ((q + 1) * 2 ^ e : ℕ) := by
    rw [← sub_pos, habove]
    exact div_pos (sub_pos.2 hrest) hpos
  -- which neighbour is nearer is told from the remainder
  have hlt : (r : ℚ) < (den * 2 ^ e : ℕ) - r ↔ 2 * r < den * 2 ^ e := by
    rw [lt_sub_iff_add_lt, ← two_mul]
    exact_mod_cast Iff.rfl
  have hgt : ((den * 2 ^ e : ℕ) : ℚ) - r < r ↔ den * 2 ^ e < 2 * r := by
    rw [sub_lt_iff_lt_add, ← two_mul]
    exact_mod_cast Iff.rfl
  have htie : (r : ℚ) = (den * 2 ^ e : ℕ) - r ↔ 2 * r = den * 2 ^ e := by
    rw [eq_sub_iff_add_eq, ← two_mul]
    exact_mod_cast Iff.rfl
  rw [isRounded_iff_of_neighbours (representable_mul_pow hq.le e)
    (representable_mul_pow (q := q + 1) hq e) hgap hleft hright,
    endsEven_mul_pow_iff hq.le hlong, endsEven_mul_pow_iff (q := q + 1) hq
      fun h => (hlong h).trans (Nat.le_succ q), hbelow, habove, div_lt_div_iff_of_pos_right hpos,
    div_lt_div_iff_of_pos_right hpos, div_left_inj' hpos.ne', hlt, hgt, htie]
  generalize q * 2 ^ e = low, (q + 1) * 2 ^ e = high
  split <;> omega

/-- **A quotient is rounded to the computed magnitude**, and to no other. -/
theorem isRounded_iff (hden : 0 < den) {u : Nat} :
    IsRounded (num / den) u ↔ u = nearest num den := by
  have hremainder : num % (den * spacing (num / den)) < den * spacing (num / den) :=
    Nat.mod_lt _ (Nat.mul_pos hden (spacing_pos _))
  have hlong : Nat.log2 (num / den) - 52 ≠ 0 → 2 ^ 52 ≤ num / den / spacing (num / den) :=
    fun h => le_div_spacing (by omega)
  have hgap := fun v => le_or_le_of_representable (num / den) (v := v)
  have hrounded : IsRounded ((den * spacing (num / den) * (num / den / spacing (num / den)) +
      num % (den * spacing (num / den)) : ℕ) / den) u ↔ _ :=
    isRounded_division hden hremainder (div_spacing_lt _) hlong hgap
  rw [Nat.div_div_eq_div_mul, Nat.div_add_mod] at hrounded
  exact hrounded

/-- A magnitude of fifty-three bits is rounded to itself. -/
theorem isRounded_self {u : Nat} (h : Representable u) : IsRounded u u := by
  refine ⟨h, fun v _ => ?_, fun v _ hother hnear => ?_⟩
  · rw [sub_self, abs_zero]
    exact abs_nonneg _
  · rw [sub_self, abs_zero, abs_eq_zero, sub_eq_zero, Nat.cast_inj] at hnear
    exact absurd hnear.symm hother

/-! ### Integers -/

section Integers

variable {n : Nat} (t : Nat)

/-- An integer of fifty-three bits is not changed. -/
theorem nearest_mul_pow (h : n ≤ 2 ^ 53) : nearest (n * 2 ^ t) 1 = n * 2 ^ t := by
  have hself := isRounded_self (representable_mul_pow h t)
  rw [← div_one ((n * 2 ^ t : ℕ) : ℚ), ← Nat.cast_one, isRounded_iff Nat.one_pos] at hself
  exact hself.symm

/-- A larger integer is rounded to a multiple of its spacing, which is an integer too. -/
theorem pow_dvd_nearest (n : Nat) : 2 ^ t ∣ nearest (n * 2 ^ t) 1 := by
  rcases Nat.le_total n (2 ^ 53) with h | h
  · exact ⟨n, by rw [nearest_mul_pow t h, Nat.mul_comm]⟩
  · have hlarge : 2 ^ (53 + t) ≤ n * 2 ^ t := by
      rw [Nat.pow_add]
      exact Nat.mul_le_mul_right _ h
    have hne : n * 2 ^ t ≠ 0 :=
      Nat.ne_of_gt (Nat.lt_of_lt_of_le (Nat.pow_pos (by decide)) hlarge)
    have hlog : 53 + t ≤ Nat.log2 (n * 2 ^ t) := (Nat.le_log2 hne).2 hlarge
    have hspacing : 2 ^ t ∣ spacing (n * 2 ^ t / 1) := by
      rw [Nat.div_one]
      exact Nat.pow_dvd_pow 2 (by omega : t ≤ Nat.log2 (n * 2 ^ t) - 52)
    rcases nearest_mem (n * 2 ^ t) 1 with heq | heq <;> rw [heq] <;> exact hspacing.mul_left _

/-- What is at least `2 ^ k` is so once it is rounded. -/
theorem pow_le_nearest {k : Nat} (h : 2 ^ k ≤ n) : 2 ^ k * 2 ^ t ≤ nearest (n * 2 ^ t) 1 := by
  rw [← Nat.pow_add]
  refine le_nearest ?_
  rw [Nat.div_one, Nat.pow_add]
  exact Nat.mul_le_mul_right _ h

end Integers

/-- **The length of a rounded integer** is the integer that it is rounded to, and saturates. -/
theorem toLength?_nearest (n : Nat) :
    toLength? ⟨false, nearest (n * one) 1⟩ =
      if n = 0 then none else some (min (nearest (n * one) 1 / one) maxLength) := by
  obtain ⟨t, ht⟩ : ∃ t, one = 2 ^ t := ⟨1074, one_eq⟩
  have hinteger : nearest (n * one) 1 % one = 0 := by
    rw [ht]
    exact Nat.mod_eq_zero_of_dvd (pow_dvd_nearest t n)
  rcases Nat.eq_zero_or_pos n with rfl | hpos
  · have hzero : nearest (0 * one) 1 = 0 := by
      rw [ht]
      simpa using nearest_mul_pow t (Nat.zero_le _)
    have hsmall : ¬one ≤ 0 := Nat.not_le.2 one_pos
    rw [hzero, toLength?]
    simp [hsmall]
  · have hlarge : one ≤ nearest (n * one) 1 := by
      rw [ht]
      simpa using pow_le_nearest t (k := 0) hpos
    simp [toLength?, hinteger, hlarge, hpos.ne']

end Binary64

end Conform

/-
**Numbers are compared exactly.**

A reported default is compared with a number as a text: it is trimmed, a fraction of zeros is left
out, and what is left is read as an integer of sixty-four bits.  No rational number is ever formed.
The comparison is exact all the same: a decimal of any length agrees with a number when it denotes
it, and no other text agrees with any number.

Main definitions:

* `Decimal.SpellsPlain` — the texts of decimals without exponents, and their decimals;
* `Decimal.rational` — the number that a decimal denotes;
* `Live.Denotes` — that a reported default, with blanks around it, is a decimal.

Main results:

* `Numeral.int64?_eq_some_iff_spells` — what is read as an integer of sixty-four bits;
* `Default.wholePart?_eq` — when a decimal has a whole part;
* `Decimal.rational_eq_intCast_iff` — **which decimals are integers**;
* `Live.number_agrees_iff` — **a number agrees with the decimals that denote it**, and with nothing
  else.
-/

import Conform.Proofs.Numeral.Finite
import Conform.Proofs.Text.Trimming
import Conform.Rule.Basic

set_option relaxedAutoImplicit false
set_option autoImplicit false

namespace Conform

/-! ### Integers of sixty-four bits -/

namespace Numeral

/-- **What is read as an integer of sixty-four bits**: the texts that spell it. -/
theorem int64?_eq_some_iff_spells {s : List Char} {n : Int64} :
    int64? s = some n ↔ Spells s n.toInt := by
  rw [int64?_eq_some_iff]
  constructor
  · rintro ⟨v, hspells, hlow, hhigh, rfl⟩
    rwa [Int64.toInt_ofInt_of_le hlow hhigh]
  · intro h
    exact ⟨n.toInt, h, n.le_toInt, n.toInt_lt, n.ofInt_toInt⟩

end Numeral

/-! ### Decimals without exponents -/

namespace Decimal

/-- **The texts of decimals without exponents**: a sign, at least one digit, and a fraction. -/
inductive SpellsPlain : List Char → Decimal → Prop
  | intro {sign whole point fraction : List Char} {negative : Bool} :
      SpellsSign sign negative →
      Numeral.Digits whole →
      SpellsFraction point fraction →
      SpellsPlain (sign ++ (whole ++ point)) ⟨negative, whole ++ fraction, -fraction.length⟩

/-- **The number that a decimal denotes.** -/
def rational (d : Decimal) : ℚ := if d.negative then -d.magnitude else d.magnitude

/-- The number that digits denote after a sign. -/
def signed (negative : Bool) (digits : List Char) : Int :=
  if negative then -(Nat.ofDigitChars 10 digits 0 : Nat) else (Nat.ofDigitChars 10 digits 0 : Nat)

variable {sign whole point fraction s : List Char} {negative : Bool} {v : Int} {d : Decimal}

theorem SpellsPlain.spells (h : SpellsPlain s d) : Spells s d := by
  obtain ⟨hsign, hwhole, hpoint⟩ := h
  have hne : ∀ {f : List Char}, _ ++ f ≠ [] :=
    fun hnil => hwhole.1 (List.append_eq_nil_iff.1 hnil).1
  have hspells := Spells.intro hsign hwhole.2 hpoint hne .none
  rwa [List.append_nil, Int.zero_sub] at hspells

/-- A decimal has no blanks at its ends, nor elsewhere. -/
theorem SpellsPlain.trim_eq (h : SpellsPlain s d) : Text.trim s = s := by
  have hblank : ∀ c ∈ s, Text.isBlank c = false := by
    intro c hc
    rcases h.spells.mem hc with hdigit | hmark
    · exact isBlank_of_digit_or_minus (.inl hdigit)
    · have hmarks : ['+', '-', '.', 'e', 'E'].all (Text.isBlank · == false) = true := by decide
      exact eq_of_beq (List.all_eq_true.1 hmarks c hmark)
  exact Text.trim_eq_self (fun c hc => hblank c (List.mem_of_mem_head? hc))
    fun c hc => hblank c (List.mem_of_mem_getLast? hc)

/-- A sign and digits spell one integer. -/
theorem spells_signed (hsign : SpellsSign sign negative) (hwhole : Numeral.Digits whole) :
    Numeral.Spells (sign ++ whole) v ↔ signed negative whole = v := by
  have hspells : Numeral.Spells (sign ++ whole) (signed negative whole) := by
    cases hsign with
    | none => exact .plain hwhole
    | plus => exact .plus hwhole
    | minus => exact .minus hwhole
  rw [← Numeral.integer?_eq_some_iff, Numeral.integer?_eq_some_iff.2 hspells, Option.some.injEq]

/-- Every spelling of an integer is a sign and digits. -/
theorem exists_of_spells (h : Numeral.Spells s v) :
    ∃ sign negative whole, SpellsSign sign negative ∧ Numeral.Digits whole ∧
      s = sign ++ whole := by
  cases h with
  | plain h => exact ⟨_, _, _, .none, h, rfl⟩
  | plus h => exact ⟨_, _, _, .plus, h, rfl⟩
  | minus h => exact ⟨_, _, _, .minus, h, rfl⟩

/-! ### Which decimals are integers -/

/-- Digits denote zero exactly when they are zeros. -/
theorem ofDigitChars_eq_zero_iff (hdigits : ∀ c ∈ s, c.isDigit = true) :
    Nat.ofDigitChars 10 s 0 = 0 ↔ s.all (· == '0') = true := by
  induction s with
  | nil => simp
  | cons c r ih =>
      obtain ⟨hlow, -⟩ := toNat_of_isDigit (hdigits c (List.mem_cons_self ..))
      have hzero : '0'.toNat = 48 := rfl
      have hfirst : c.toNat - '0'.toNat = 0 ↔ c = '0' := by
        rw [← Char.toNat_inj]
        omega
      have hrest := ih fun c hc => hdigits c (List.mem_cons_of_mem _ hc)
      rw [Nat.ofDigitChars_cons, Nat.ofDigitChars_eq_ofDigitChars_zero, List.all_cons,
        Bool.and_eq_true, beq_iff_eq, ← hfirst, ← hrest, Nat.add_eq_zero_iff, Nat.mul_eq_zero]
      simp

/-- A decimal is its whole part and its fraction. -/
theorem magnitude_eq (negative : Bool) (whole fraction : List Char) :
    magnitude ⟨negative, whole ++ fraction, -fraction.length⟩ =
      Nat.ofDigitChars 10 whole 0 + Nat.ofDigitChars 10 fraction 0 / 10 ^ fraction.length := by
  have hten : (10 : ℚ) ^ fraction.length ≠ 0 := by positivity
  rw [magnitude, coefficient, Nat.ofDigitChars_append, Nat.ofDigitChars_eq_ofDigitChars_zero,
    zpow_neg, zpow_natCast, ← div_eq_mul_inv]
  push_cast
  rw [add_div, mul_div_cancel_left₀ _ hten]

/-- A number with a fraction of zeros is its whole part; any other fraction is less than one and not
zero. -/
theorem magnitude_eq_intCast_iff (hfraction : ∀ c ∈ fraction, c.isDigit = true) :
    magnitude ⟨negative, whole ++ fraction, -fraction.length⟩ = v ↔
      fraction.all (· == '0') = true ∧ (Nat.ofDigitChars 10 whole 0 : Int) = v := by
  have hbelow : Nat.ofDigitChars 10 fraction 0 < 10 ^ fraction.length := by
    simpa using ofDigitChars_lt hfraction 0
  rw [magnitude_eq, ← ofDigitChars_eq_zero_iff hfraction]
  generalize Nat.ofDigitChars 10 fraction 0 = f at *
  generalize Nat.ofDigitChars 10 whole 0 = w
  constructor
  · intro h
    have hten : (10 : ℚ) ^ fraction.length ≠ 0 := by positivity
    have hproduct : (f : ℚ) = (v - w) * 10 ^ fraction.length := by
      rw [← h, add_sub_cancel_left, div_mul_cancel₀ _ hten]
    have hinteger : (f : Int) = (v - w) * ((10 ^ fraction.length : Nat) : Int) := by
      exact_mod_cast hproduct
    have hdivides : 10 ^ fraction.length ∣ f :=
      Int.natCast_dvd_natCast.1 ⟨v - w, by rw [hinteger, Int.mul_comm]⟩
    have hzero : f = 0 := Nat.eq_zero_of_dvd_of_lt hdivides hbelow
    rw [hzero, Nat.cast_zero, zero_div, add_zero] at h
    exact ⟨hzero, by exact_mod_cast h⟩
  · rintro ⟨rfl, rfl⟩
    simp

/-- **Which decimals are integers**: those whose fractions are of zeros, and they are their signed
whole parts. -/
theorem rational_eq_intCast_iff (hfraction : ∀ c ∈ fraction, c.isDigit = true) :
    rational ⟨negative, whole ++ fraction, -fraction.length⟩ = v ↔
      fraction.all (· == '0') = true ∧ signed negative whole = v := by
  cases negative with
  | false => exact magnitude_eq_intCast_iff hfraction
  | true =>
      change -magnitude _ = (v : ℚ) ↔ _ ∧ -(Nat.ofDigitChars 10 whole 0 : Int) = v
      rw [neg_eq_iff_eq_neg, neg_eq_iff_eq_neg, ← Int.cast_neg,
        magnitude_eq_intCast_iff hfraction]

end Decimal

/-! ### The comparison -/

namespace Default

open Decimal

variable {sign whole point fraction : List Char} {negative : Bool}

/-- **When a decimal has a whole part**: when its fraction is of zeros. -/
theorem wholePart?_eq (hsign : SpellsSign sign negative) (hwhole : Numeral.Digits whole)
    (hpoint : SpellsFraction point fraction) :
    wholePart? (sign ++ (whole ++ point)) =
      if fraction.all (· == '0') then some (sign ++ whole) else none := by
  have hfree : '.' ∉ sign ++ whole := by
    rw [List.mem_append, not_or]
    refine ⟨by cases hsign <;> decide, fun hmem => ?_⟩
    exact absurd (hwhole.2 '.' hmem) (by decide)
  rw [← List.append_assoc]
  cases hpoint with
  | none =>
      rw [List.append_nil, wholePart?, Text.cut_eq_none_iff.2 hfree]
      rfl
  | point => rw [wholePart?, Text.cut_eq_some_iff.2 ⟨hfree, rfl⟩]

/-- What has a whole part is the whole part, perhaps with a fraction of zeros. -/
theorem eq_of_wholePart? {s w : List Char} (h : wholePart? s = some w) :
    ∃ point fraction, SpellsFraction point fraction ∧ s = w ++ point := by
  unfold wholePart? at h
  split at h
  · exact ⟨[], [], .none, by rw [Option.some.inj h, List.append_nil]⟩
  next whole fraction hcut =>
    obtain ⟨hzeros, hw⟩ := Option.ite_none_right_eq_some.1 h
    obtain ⟨-, rfl⟩ := Text.cut_eq_some_iff.1 hcut
    refine ⟨'.' :: fraction, fraction, .point fun c hc => ?_, by rw [Option.some.inj hw]⟩
    rw [eq_of_beq (List.all_eq_true.1 hzeros c hc)]
    rfl

end Default

namespace Live

open Decimal

/-- **That a reported default denotes a number**: it is a decimal without exponent, with blanks
around it. -/
def Denotes (raw : String) (q : ℚ) : Prop :=
  ∃ numeral d, Text.Pads numeral raw.toList ∧ SpellsPlain numeral d ∧ q = d.rational

variable {raw : String} {n : Int64} {q : ℚ}

/-- What denotes a number is read as a decimal once it is trimmed. -/
theorem Denotes.read? (h : Denotes raw q) :
    ∃ d, Decimal.read? (Text.trim raw.toList) = some d ∧ q = d.rational := by
  obtain ⟨numeral, d, hpads, hspells, rfl⟩ := h
  rw [hpads.trim_eq, hspells.trim_eq]
  exact ⟨d, read?_eq_some_iff.2 hspells.spells, rfl⟩

/-- A decimal with a fraction of zeros denotes its signed whole part. -/
theorem denotes_signed {sign whole point fraction : List Char} {negative : Bool}
    (hsign : SpellsSign sign negative) (hwhole : Numeral.Digits whole)
    (hpoint : SpellsFraction point fraction) (hzeros : fraction.all (· == '0') = true)
    (hpads : Text.Pads (sign ++ (whole ++ point)) raw.toList) :
    Denotes raw (signed negative whole) :=
  ⟨_, _, hpads, .intro hsign hwhole hpoint,
    ((rational_eq_intCast_iff hpoint.digits).2 ⟨hzeros, rfl⟩).symm⟩

/-- A decimal is compared with a number by its value. -/
theorem integerValue?_of_denotes (h : Denotes raw q) :
    Default.integerValue? raw = some n ↔ q = n.toInt := by
  obtain ⟨numeral, d, hpads, hspells, rfl⟩ := h
  rw [Default.integerValue?, hpads.trim_eq, hspells.trim_eq]
  obtain @⟨sign, whole, point, fraction, negative, hsign, hwhole, hpoint⟩ := hspells
  rw [Default.wholePart?_eq hsign hwhole hpoint, rational_eq_intCast_iff hpoint.digits,
    ← spells_signed hsign hwhole, ← Numeral.int64?_eq_some_iff_spells]
  split
  next hzeros => simp [hzeros]
  next hzeros => simp [hzeros]

/-- What is read as an integer is a decimal. -/
theorem denotes_of_integerValue? (h : Default.integerValue? raw = some n) :
    ∃ q, Denotes raw q := by
  obtain ⟨w, hwhole, hvalue⟩ := Option.bind_eq_some_iff.1 h
  obtain ⟨point, fraction, hpoint, htrim⟩ := Default.eq_of_wholePart? hwhole
  obtain ⟨sign, negative, whole, hsign, hdigits, rfl⟩ :=
    exists_of_spells (Numeral.int64?_eq_some_iff_spells.1 hvalue)
  have hpads := Text.pads_trim raw.toList
  rw [htrim, List.append_assoc] at hpads
  exact ⟨_, _, _, hpads, .intro hsign hdigits hpoint, rfl⟩

/-- **A number agrees with the decimals that denote it**, of whatever length and with whatever
signs and zeros; a text that is no decimal agrees with no number. -/
theorem number_agrees_iff (n : Int64) (raw : String) :
    (∀ q, Denotes raw q → ((Default.number n).agrees (some raw) = true ↔ q = n.toInt)) ∧
      ((∀ q, ¬Denotes raw q) → (Default.number n).agrees (some raw) = false) := by
  have hagrees : (Default.number n).agrees (some raw) = true ↔
      Default.integerValue? raw = some n := beq_iff_eq
  constructor
  · intro q hq
    rw [hagrees, integerValue?_of_denotes hq]
  · intro hno
    rw [← Bool.not_eq_true, hagrees]
    intro h
    obtain ⟨q, hq⟩ := denotes_of_integerValue? h
    exact hno q hq

/-- Ten with a sign, zeros and blanks. -/
theorem denotes_padded : Denotes " +0010.00\n" (10 : Int) := by
  have hwhole : Numeral.Digits ['0', '0', '1', '0'] := by decide
  have hzeros : SpellsFraction ['.', '0', '0'] ['0', '0'] := .point (List.all_eq_true.1 (by decide))
  have hpads : Text.Pads "+0010.00".toList " +0010.00\n".toList :=
    ⟨[' '], ['\n'], List.all_eq_true.1 (by decide), List.all_eq_true.1 (by decide), rfl⟩
  exact denotes_signed .plus hwhole hzeros rfl hpads

/-- A number that differs from ten by `2 ^ 64`. -/
theorem denotes_past : Denotes "18446744073709551626" (18446744073709551626 : Int) := by
  have hwhole : Numeral.Digits "18446744073709551626".toList := by decide
  exact denotes_signed .none hwhole .none rfl ⟨[], [], nofun, nofun, by simp⟩

/-- Ten in more characters than it needs is ten; a number that differs from it by `2 ^ 64` is not,
and neither is a numeral with two points. -/
theorem number_agrees_padded :
    (Default.number 10).agrees (some " +0010.00\n") = true ∧
      (Default.number 10).agrees (some "18446744073709551626") = false ∧
      (Default.number 10).agrees (some "10.0.0") = false := by
  have hten := (number_agrees_iff 10 " +0010.00\n").1 _ denotes_padded
  have hpast := (number_agrees_iff 10 "18446744073709551626").1 _ denotes_past
  refine ⟨hten.2 rfl, ?_, (number_agrees_iff 10 "10.0.0").2 fun q hq => ?_⟩
  · rw [← Bool.not_eq_true, hpast, Int.cast_inj]
    decide
  · obtain ⟨d, hd, -⟩ := hq.read?
    have hnone : Decimal.read? (Text.trim "10.0.0".toList) = none := by decide +kernel
    rw [hnone] at hd
    cases hd

end Live

end Conform

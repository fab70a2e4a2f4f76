/-
**The grammar of numerals.**

An integer is a run of digits, perhaps with a sign before it.  A decimal has a sign, digits, a
point with more digits, and an exponent, in this order; each of them may be left out, but not all
of the digits.  The readers accept these texts and no others.

Main definitions:

* `Numeral.Digits` — non-empty runs of digits;
* `Numeral.Spells` — which texts spell which integer;
* `Decimal.Spells` — which texts spell which decimal.

Main results:

* `Numeral.integer?_eq_some_iff` — **an integer is read from the texts that spell it**;
* `Numeral.int64?_eq_some_iff` — and it is kept if it has sixty-four bits;
* `toList_toString_int`, `spells_toString` — the characters of an integer that is written, which
  spell it;
* `Decimal.read?_eq_some_iff` — **a decimal is read from the texts that spell it**;
* `Decimal.Spells.mem` — the characters of a decimal.
-/

import Mathlib.Algebra.Ring.Int.Defs
import Mathlib.Data.List.TakeWhile
import Conform.Numeral.Decimal
import Conform.Text.Blank

set_option relaxedAutoImplicit false
set_option autoImplicit false

namespace Conform

/-! ### Digits -/

theorem toNat_of_isDigit {c : Char} (h : c.isDigit = true) : 48 ≤ c.toNat ∧ c.toNat ≤ 57 := by
  simp only [Char.isDigit, Bool.and_eq_true, decide_eq_true_eq, ge_iff_le] at h
  exact ⟨UInt32.le_iff_toNat_le.1 h.1, UInt32.le_iff_toNat_le.1 h.2⟩

theorem isBlank_of_digit_or_minus {c : Char} (h : c.isDigit = true ∨ c = '-') :
    Text.isBlank c = false := by
  rcases h with h | rfl
  · obtain ⟨hlow, hhigh⟩ := toNat_of_isDigit h
    simp only [Text.isBlank, Bool.or_eq_false_iff, Bool.and_eq_false_iff, decide_eq_false_iff_not,
      beq_eq_false_iff_ne]
    omega
  · decide

/-! ### Integers -/

namespace Numeral

/-- **Non-empty runs of digits.** -/
def Digits (s : List Char) : Prop := s ≠ [] ∧ ∀ c ∈ s, c.isDigit = true

instance (s : List Char) : Decidable (Digits s) :=
  decidable_of_iff (s ≠ [] ∧ s.all Char.isDigit = true) (and_congr_right' List.all_eq_true)

theorem natural?_eq_some_iff {s : List Char} {n : Nat} :
    natural? s = some n ↔ Digits s ∧ Nat.ofDigitChars 10 s 0 = n := by
  unfold natural? Digits
  rw [Option.ite_none_right_eq_some, Option.some.injEq, Bool.and_eq_true, List.all_eq_true]
  cases s <;> simp

/-- **Which texts spell which integer.** -/
inductive Spells : List Char → Int → Prop
  | plain {s : List Char} : Digits s → Spells s (Nat.ofDigitChars 10 s 0 : Nat)
  | plus {s : List Char} : Digits s → Spells ('+' :: s) (Nat.ofDigitChars 10 s 0 : Nat)
  | minus {s : List Char} : Digits s → Spells ('-' :: s) (-(Nat.ofDigitChars 10 s 0 : Nat))

/-- A run of digits does not begin with a sign. -/
theorem Digits.head_ne {c sign : Char} {s : List Char} (h : Digits (c :: s))
    (hsign : sign.isDigit = false) : c ≠ sign := by
  rintro rfl
  exact Bool.eq_false_iff.1 hsign (h.2 c (List.mem_cons_self ..))

theorem integer?_minus (s : List Char) :
    integer? ('-' :: s) = (natural? s).map fun n : Nat => -(n : Int) := by
  cases h : natural? s <;> simp [integer?, h]

theorem integer?_plus (s : List Char) :
    integer? ('+' :: s) = (natural? s).map fun n : Nat => (n : Int) := by
  cases h : natural? s <;> simp [integer?, h]

theorem integer?_unsigned {s : List Char} (hminus : ∀ r, s ≠ '-' :: r)
    (hplus : ∀ r, s ≠ '+' :: r) :
    integer? s = (natural? s).map fun n : Nat => (n : Int) := by
  unfold integer?
  split
  · exact absurd rfl (hminus _)
  · exact absurd rfl (hplus _)
  · cases natural? s <;> rfl

/-- **An integer is read from the texts that spell it.** -/
theorem integer?_eq_some_iff {s : List Char} {v : Int} : integer? s = some v ↔ Spells s v := by
  constructor
  · intro h
    by_cases hminus : ∃ r, s = '-' :: r
    · obtain ⟨r, rfl⟩ := hminus
      obtain ⟨n, hn, rfl⟩ := Option.map_eq_some_iff.1 (integer?_minus r ▸ h)
      obtain ⟨hdigits, rfl⟩ := natural?_eq_some_iff.1 hn
      exact .minus hdigits
    by_cases hplus : ∃ r, s = '+' :: r
    · obtain ⟨r, rfl⟩ := hplus
      obtain ⟨n, hn, rfl⟩ := Option.map_eq_some_iff.1 (integer?_plus r ▸ h)
      obtain ⟨hdigits, rfl⟩ := natural?_eq_some_iff.1 hn
      exact .plus hdigits
    rw [integer?_unsigned (not_exists.1 hminus) (not_exists.1 hplus)] at h
    obtain ⟨n, hn, rfl⟩ := Option.map_eq_some_iff.1 h
    obtain ⟨hdigits, rfl⟩ := natural?_eq_some_iff.1 hn
    exact .plain hdigits
  · intro h
    cases h with
    | plain h =>
        rw [integer?_unsigned, natural?_eq_some_iff.2 ⟨h, rfl⟩]
        · rfl
        · rintro r rfl
          exact h.head_ne rfl rfl
        · rintro r rfl
          exact h.head_ne rfl rfl
    | plus h => rw [integer?_plus, natural?_eq_some_iff.2 ⟨h, rfl⟩]; rfl
    | minus h => rw [integer?_minus, natural?_eq_some_iff.2 ⟨h, rfl⟩]; rfl

/-- **An integer of sixty-four bits is read from the texts that spell it.** -/
theorem int64?_eq_some_iff {s : List Char} {n : Int64} :
    int64? s = some n ↔
      ∃ v, Spells s v ∧ -2 ^ 63 ≤ v ∧ v < 2 ^ 63 ∧ Int64.ofInt v = n := by
  simp only [int64?, Option.bind_eq_some_iff, integer?_eq_some_iff, Option.ite_none_right_eq_some,
    Option.some.injEq, and_assoc]
  rfl

/-- The characters of an integer are digits, and perhaps one sign. -/
theorem Spells.mem {s : List Char} {v : Int} (h : Spells s v) {c : Char} (hc : c ∈ s) :
    c.isDigit = true ∨ c ∈ ['+', '-'] := by
  cases h with
  | plain h => exact .inl (h.2 c hc)
  | plus h => exact (List.mem_cons.1 hc).symm.imp (h.2 c) (by rintro rfl; simp)
  | minus h => exact (List.mem_cons.1 hc).symm.imp (h.2 c) (by rintro rfl; simp)

end Numeral

/-! ### Integers that are written -/

theorem toList_toString_nat (n : Nat) : (toString n).toList = Nat.toDigits 10 n := Nat.toList_repr

/-- **The characters of an integer**: its digits, after a minus sign if it is negative. -/
theorem toList_toString_int (i : Int) :
    (toString i).toList =
      match i with
      | .ofNat n => Nat.toDigits 10 n
      | .negSucc n => '-' :: Nat.toDigits 10 (n + 1) := by
  cases i with
  | ofNat n => exact toList_toString_nat n
  | negSucc n =>
      have hminus : (toString (Int.negSucc n)).toList = ("-" ++ toString (n + 1)).toList := rfl
      rw [hminus, String.toList_append, toList_toString_nat]
      rfl

/-- An integer is written with digits, and perhaps a minus sign. -/
theorem digit_or_minus_of_mem {i : Int} {c : Char} (h : c ∈ (toString i).toList) :
    c.isDigit = true ∨ c = '-' := by
  rw [toList_toString_int] at h
  cases i with
  | ofNat n => exact .inl (Nat.isDigit_of_mem_toDigits (by decide) (by decide) h)
  | negSucc n =>
      rcases List.mem_cons.1 h with rfl | h
      · exact .inr rfl
      · exact .inl (Nat.isDigit_of_mem_toDigits (by decide) (by decide) h)

theorem trim_toString_int (i : Int) : Text.trim (toString i).toList = (toString i).toList := by
  refine Text.trim_eq_self (fun c hc => ?_) fun c hc => ?_
  · exact isBlank_of_digit_or_minus (digit_or_minus_of_mem (List.mem_of_mem_head? hc))
  · exact isBlank_of_digit_or_minus (digit_or_minus_of_mem (List.mem_of_mem_getLast? hc))

theorem not_mem_toString_int {i : Int} {c : Char} (hdigit : c.isDigit = false) (hminus : c ≠ '-') :
    c ∉ (toString i).toList := by
  intro h
  rcases digit_or_minus_of_mem h with h | h
  · rw [h] at hdigit
    cases hdigit
  · exact hminus h

/-- **An integer that is written spells itself.** -/
theorem spells_toString (i : Int) : Numeral.Spells (toString i).toList i := by
  rw [toList_toString_int]
  cases i with
  | ofNat n =>
      obtain ⟨hdigits, hvalue⟩ := Numeral.natural?_eq_some_iff.1 (Numeral.natural?_toDigits n)
      have hspells := Numeral.Spells.plain hdigits
      rwa [hvalue] at hspells
  | negSucc n =>
      obtain ⟨hdigits, hvalue⟩ := Numeral.natural?_eq_some_iff.1 (Numeral.natural?_toDigits (n + 1))
      have hspells := Numeral.Spells.minus hdigits
      rwa [hvalue] at hspells

/-- **An integer that is written is read back.** -/
theorem integer?_toString (i : Int) : Numeral.integer? (toString i).toList = some i :=
  Numeral.integer?_eq_some_iff.2 (spells_toString i)

/-! ### Decimals -/

namespace Decimal

/-- The texts of a sign, and whether it is that of negative numbers. -/
inductive SpellsSign : List Char → Bool → Prop
  | none : SpellsSign [] false
  | plus : SpellsSign ['+'] false
  | minus : SpellsSign ['-'] true

/-- The texts of a fraction, and its digits; a point may be without digits. -/
inductive SpellsFraction : List Char → List Char → Prop
  | none : SpellsFraction [] []
  | point {s : List Char} : (∀ c ∈ s, c.isDigit = true) → SpellsFraction ('.' :: s) s

theorem SpellsFraction.digits {point fraction : List Char} (h : SpellsFraction point fraction) :
    ∀ c ∈ fraction, c.isDigit = true := by
  cases h with
  | none => exact nofun
  | point h => exact h

/-- The texts of an exponent. -/
inductive SpellsExponent : List Char → Int → Prop
  | none : SpellsExponent [] 0
  | small {s : List Char} {e : Int} : Numeral.Spells s e → SpellsExponent ('e' :: s) e
  | capital {s : List Char} {e : Int} : Numeral.Spells s e → SpellsExponent ('E' :: s) e

/-- **Which texts spell which decimal**: a sign, digits, a fraction and an exponent, with at least
one digit before the exponent. -/
inductive Spells : List Char → Decimal → Prop
  | intro {sign whole point fraction power : List Char} {negative : Bool} {e : Int} :
      SpellsSign sign negative →
      (∀ c ∈ whole, c.isDigit = true) →
      SpellsFraction point fraction →
      whole ++ fraction ≠ [] →
      SpellsExponent power e →
      Spells (sign ++ (whole ++ (point ++ power)))
        ⟨negative, whole ++ fraction, e - fraction.length⟩

/-! ### The four pieces -/

/-- A run of digits ends where something else begins. -/
theorem takeWhile_digits {digits rest : List Char} (hdigits : ∀ c ∈ digits, c.isDigit = true)
    (hrest : ∀ c, rest.head? = some c → c.isDigit = false) :
    (digits ++ rest).takeWhile Char.isDigit = digits ∧
      (digits ++ rest).dropWhile Char.isDigit = rest := by
  have hstop : rest.takeWhile Char.isDigit = [] ∧ rest.dropWhile Char.isDigit = rest := by
    cases rest with
    | nil => exact ⟨rfl, rfl⟩
    | cons c r => simp [hrest c rfl]
  rw [List.takeWhile_append_of_pos hdigits, List.dropWhile_append_of_pos hdigits, hstop.1, hstop.2]
  exact ⟨List.append_nil _, rfl⟩

theorem readExponent?_eq_some_iff {s : List Char} {e : Int} :
    readExponent? s = some e ↔ SpellsExponent s e := by
  constructor
  · intro h
    cases s with
    | nil =>
        obtain rfl := Option.some.inj h
        exact .none
    | cons c r =>
        obtain ⟨rfl | rfl, hspells⟩ := Option.ite_none_right_eq_some.1 h
        · exact .small (Numeral.integer?_eq_some_iff.1 hspells)
        · exact .capital (Numeral.integer?_eq_some_iff.1 hspells)
  · intro h
    cases h with
    | none => rfl
    | small h => exact Numeral.integer?_eq_some_iff.2 h
    | capital h => exact Numeral.integer?_eq_some_iff.2 h

/-- An exponent begins with a letter, and so neither with a digit nor with a point. -/
theorem SpellsExponent.head {s : List Char} {e : Int} (h : SpellsExponent s e) {c : Char}
    (hc : s.head? = some c) : c = 'e' ∨ c = 'E' := by
  cases h with
  | none => cases hc
  | small h => exact .inl (Option.some.inj hc).symm
  | capital h => exact .inr (Option.some.inj hc).symm

theorem SpellsExponent.not_digit {s : List Char} {e : Int} (h : SpellsExponent s e) :
    ∀ c, s.head? = some c → c.isDigit = false := by
  intro c hc
  rcases h.head hc with rfl | rfl <;> rfl

/-- The fraction is read up to the exponent. -/
theorem readFraction_append {point fraction power : List Char} {e : Int}
    (hpoint : SpellsFraction point fraction) (hpower : SpellsExponent power e) :
    readFraction (point ++ power) = (fraction, power) := by
  cases hpoint with
  | none =>
      cases power with
      | nil => rfl
      | cons c r => rcases hpower.head rfl with rfl | rfl <;> rfl
  | point hdigits =>
      obtain ⟨htake, hdrop⟩ := takeWhile_digits hdigits hpower.not_digit
      exact Prod.ext htake hdrop

theorem spellsFraction_readFraction (s : List Char) :
    ∃ point, SpellsFraction point (readFraction s).1 ∧ s = point ++ (readFraction s).2 := by
  unfold readFraction
  split
  next r =>
    refine ⟨'.' :: r.takeWhile Char.isDigit, .point fun c hc => List.mem_takeWhile_imp hc, ?_⟩
    rw [List.cons_append, List.takeWhile_append_dropWhile]
  · exact ⟨[], .none, rfl⟩

theorem spellsSign_readSign (s : List Char) :
    ∃ sign, SpellsSign sign (readSign s).1 ∧ s = sign ++ (readSign s).2 := by
  unfold readSign
  split
  · exact ⟨['-'], .minus, rfl⟩
  · exact ⟨['+'], .plus, rfl⟩
  · exact ⟨[], .none, rfl⟩

/-- A sign is read where none follows it. -/
theorem readSign_append {sign rest : List Char} {negative : Bool} (hsign : SpellsSign sign negative)
    (hrest : ∀ c, rest.head? = some c → c ≠ '-' ∧ c ≠ '+') :
    readSign (sign ++ rest) = (negative, rest) := by
  cases hsign with
  | none =>
      unfold readSign
      split
      next heq => exact absurd rfl (hrest '-' (by rw [← List.nil_append rest, heq]; rfl)).1
      next heq => exact absurd rfl (hrest '+' (by rw [← List.nil_append rest, heq]; rfl)).2
      · rfl
  | plus => rfl
  | minus => rfl

/-! ### The whole -/

/-- What follows the sign does not begin with a sign. -/
theorem head_ne_sign {whole point fraction power : List Char} {e : Int}
    (hwhole : ∀ c ∈ whole, c.isDigit = true) (hpoint : SpellsFraction point fraction)
    (hpower : SpellsExponent power e) {c : Char}
    (hc : (whole ++ (point ++ power)).head? = some c) : c ≠ '-' ∧ c ≠ '+' := by
  cases whole with
  | cons w ws =>
      obtain rfl : w = c := Option.some.inj hc
      have hdigit : w.isDigit = true := hwhole w (List.mem_cons_self ..)
      constructor <;> rintro rfl <;> cases hdigit
  | nil =>
      cases hpoint with
      | point => obtain rfl := Option.some.inj hc; decide
      | none => rcases hpower.head hc with rfl | rfl <;> decide

theorem read?_eq (s : List Char) :
    read? s =
      if ((readSign s).2.takeWhile Char.isDigit).isEmpty &&
          (readFraction ((readSign s).2.dropWhile Char.isDigit)).1.isEmpty then none
      else (readExponent? (readFraction ((readSign s).2.dropWhile Char.isDigit)).2).map fun e =>
        ⟨(readSign s).1, (readSign s).2.takeWhile Char.isDigit ++
          (readFraction ((readSign s).2.dropWhile Char.isDigit)).1,
          e - (readFraction ((readSign s).2.dropWhile Char.isDigit)).1.length⟩ := rfl

/-- **A decimal is read from the texts that spell it.** -/
theorem read?_eq_some_iff {s : List Char} {d : Decimal} : read? s = some d ↔ Spells s d := by
  constructor
  · intro h
    obtain ⟨sign, hsign, hs⟩ := spellsSign_readSign s
    rw [read?_eq] at h
    obtain ⟨hany, h⟩ := Option.ite_none_left_eq_some.1 h
    obtain ⟨e, hpower, rfl⟩ := Option.map_eq_some_iff.1 h
    -- the text is put together again from its four pieces
    generalize (readSign s).2 = r at *
    generalize hw : r.takeWhile Char.isDigit = whole at *
    generalize hr : r.dropWhile Char.isDigit = rest at *
    obtain ⟨point, hpoint, hrest⟩ := spellsFraction_readFraction rest
    have hwhole : ∀ c ∈ whole, c.isDigit = true := hw ▸ fun c hc => List.mem_takeWhile_imp hc
    have hne : whole ++ (readFraction rest).1 ≠ [] := by
      intro hnil
      obtain ⟨h1, h2⟩ := List.append_eq_nil_iff.1 hnil
      exact hany (by rw [h1, h2]; rfl)
    have hspells := Spells.intro hsign hwhole hpoint hne (readExponent?_eq_some_iff.1 hpower)
    rw [← hrest, ← hr, ← hw, List.takeWhile_append_dropWhile, ← hs, hw, hr] at hspells
    exact hspells
  · intro h
    cases h with
    | @intro sign whole point fraction power negative e hsign hwhole hpoint hne hpower =>
        have hhead : ∀ c, (point ++ power).head? = some c → c.isDigit = false := by
          cases hpoint with
          | none => exact hpower.not_digit
          | point =>
              intro c hc
              obtain rfl := Option.some.inj hc
              rfl
        obtain ⟨htake, hdrop⟩ := takeWhile_digits hwhole hhead
        have hany : (whole.isEmpty && fraction.isEmpty) = false := by
          cases whole <;> cases fraction <;> simp_all
        have hunsigned := readSign_append hsign fun c => head_ne_sign hwhole hpoint hpower (c := c)
        simp only [read?_eq, hunsigned, htake, hdrop, readFraction_append hpoint hpower, hany,
          readExponent?_eq_some_iff.2 hpower]
        rfl

/-! ### Characters -/

/-- **The characters of a decimal** are digits, signs, points and the letter of the exponent. -/
theorem Spells.mem {s : List Char} {d : Decimal} (h : Spells s d) {c : Char} (hc : c ∈ s) :
    c.isDigit = true ∨ c ∈ ['+', '-', '.', 'e', 'E'] := by
  have hwiden : ∀ {t : List Char} {v : Int}, Numeral.Spells t v → c ∈ t →
      c.isDigit = true ∨ c ∈ ['+', '-', '.', 'e', 'E'] := fun h hc =>
    (h.mem hc).imp_right fun hsign => by
      simp only [List.mem_cons, List.not_mem_nil, or_false] at hsign ⊢
      exact hsign.elim .inl (.inr ∘ .inl)
  obtain ⟨hsign, hwhole, hpoint, -, hpower⟩ := h
  rcases List.mem_append.1 hc with hc | hc
  · cases hsign <;> simp_all
  · rcases List.mem_append.1 hc with hc | hc
    · exact .inl (hwhole c hc)
    · rcases List.mem_append.1 hc with hc | hc
      · cases hpoint with
        | none => cases hc
        | point hdigits => exact (List.mem_cons.1 hc).symm.imp (hdigits c) (by rintro rfl; simp)
      · cases hpower with
        | none => cases hc
        | small h => exact (List.mem_cons.1 hc).elim (by rintro rfl; simp) (hwiden h)
        | capital h => exact (List.mem_cons.1 hc).elim (by rintro rfl; simp) (hwiden h)

end Decimal

end Conform

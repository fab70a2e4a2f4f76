/-
**Lengths are exact up to the limit.**

The length of a column is written as a number, read as a binary64 number and converted to a natural
number.  Large numbers are rounded on the way, and very large ones saturate or overflow.  None of
this shows: a rule is accepted exactly when its number is a length that the dialect allows, and then
the column has this length, in the text of its type and when the length is read back from that text.

Main definitions:

* `Rule.lengthParts` — the parts of a rule that states a length and nothing else;
* `Rule.LengthFacts` — **what becomes of a written length**.

Main results:

* `Binary64.toLength?_nearest_le_iff` — rounding moves no number across the limit;
* `Rule.parse_lengthParts` — the number of a rule is read, or it overflows;
* `lengths_exact` — **lengths are exact up to the limit, and refused beyond it**.
-/

import Conform.Proofs.Live.Numbers
import Conform.Proofs.Numeral.Rounding
import Conform.Proofs.Rule.Grammar
import Conform.Proofs.Sqlite.Reported

set_option relaxedAutoImplicit false
set_option autoImplicit false

namespace Conform

/-! ### Rounded lengths -/

namespace Binary64

/-- **Rounding moves no number across a limit of fifty-three bits**, and below it no number is
changed. -/
theorem toLength?_nearest_le_iff {n m limit : Nat} (hlimit : limit < 2 ^ 53) :
    toLength? ⟨false, nearest (n * one) 1⟩ = some m ∧ m ≤ limit ↔
      1 ≤ n ∧ n ≤ limit ∧ m = n := by
  obtain ⟨t, ht⟩ : ∃ t, one = 2 ^ t := ⟨1074, one_eq⟩
  have hpos : 0 < 2 ^ t := Nat.pow_pos (by decide)
  have hmax : 2 ^ 53 ≤ maxLength := by decide
  rw [toLength?_nearest, ht]
  rcases Nat.lt_or_ge n (2 ^ 53) with h | h
  · rw [nearest_mul_pow t h.le, Nat.mul_div_cancel _ hpos, Nat.min_eq_left (by omega)]
    split <;> simp <;> omega
  · -- a number of more bits stays above the limit
    have hlarge : 2 ^ 53 ≤ nearest (n * 2 ^ t) 1 / 2 ^ t :=
      (Nat.le_div_iff_mul_le hpos).2 (pow_le_nearest t h)
    generalize nearest (n * 2 ^ t) 1 / 2 ^ t = q at hlarge
    split <;> simp <;> omega

/-- **A run of digits is read as the number that its value is rounded to.** -/
theorem read?_digits {digits : List Char} (h : Numeral.Digits digits) :
    read? digits = ofQuotient? false (Nat.ofDigitChars 10 digits 0) 1 := by
  have hplain : Decimal.SpellsPlain digits ⟨false, digits, 0⟩ := by
    simpa using Decimal.SpellsPlain.intro .none h .none
  rw [read?, Decimal.read?_eq_some_iff.2 hplain.spells, Option.bind_some,
    Decimal.toBinary64?_eq h.2]
  simp [Decimal.coefficient]

end Binary64

namespace Rule

/-! ### Rules that state a length -/

/-- **The parts of a rule that states a length and nothing else**: there is no lower bound, no
default, no index and no pattern. -/
def lengthParts (label : List Char) (name : String) (digits : List Char) : Parts :=
  ⟨label, name.toList, absentWord, digits, absentWord, flagMark false, absentWord⟩

/-- The rule that they are. -/
def ofLength (label : List Char) (k : Kind) (x : Binary64) : Rule :=
  ⟨String.ofList (Text.trim label), k, none, some x, .absent, false, none⟩

variable {d : Dialect} {k : Kind} {key name : String} {label digits : List Char} {n : Nat}

theorem barless_name (hname : name ∈ k.names) :
    '|' ∉ name.toList ∧ String.ofList (Text.trim name.toList) = name := by
  cases k <;> simp only [Kind.names, List.mem_cons, List.not_mem_nil, or_false] at hname
  all_goals rcases hname with rfl | rfl <;> decide

theorem separate_lengthParts (hlabel : '|' ∉ label) (hname : name ∈ k.names)
    (hdigits : Numeral.Digits digits) : (lengthParts label name digits).Separate := by
  intro part hpart
  simp only [Parts.front, lengthParts, List.mem_cons, List.not_mem_nil, or_false] at hpart
  rcases hpart with rfl | rfl | rfl | rfl | rfl | rfl
  · exact hlabel
  · exact (barless_name hname).1
  · decide
  · exact fun hbar => absurd (hdigits.2 '|' hbar) (by decide)
  · decide
  · decide

/-- **The number of a rule is read**, or it overflows and is refused. -/
theorem parse_lengthParts (hlabel : '|' ∉ label) (hname : name ∈ k.names)
    (hdigits : Numeral.Digits digits) :
    parse (lengthParts label name digits).write =
      match Binary64.read? digits with
      | none => .error (.bound .upper (String.ofList digits))
      | some x => .ok (ofLength label k x) := by
  have htrim : Text.trim digits = digits := by
    simpa using (Decimal.SpellsPlain.intro .none hdigits .none).trim_eq
  have hnumber : digits ≠ absentWord := by
    rintro rfl
    exact absurd (hdigits.2 'n' (by decide)) (by decide)
  have hkind : readKind name.toList = .ok k :=
    readKind_eq_ok_iff.2 ((barless_name hname).2.symm ▸ hname)
  rw [parse, Parts.splitUpTo_eq_iff.2 ⟨separate_lengthParts hlabel hname hdigits, rfl⟩]
  simp only [lengthParts, Parts.front, List.cons_append, List.nil_append, ofParts, hkind, readBound,
    htrim, if_neg hnumber]
  cases Binary64.read? digits <;> rfl

theorem length_ofLength (hkind : k.isBounded = true) (x : Binary64) :
    (ofLength label k x).length = x.toLength? := by
  simp [Rule.length, ofLength, hkind]

/-- A rule that states a length is refused for its length only. -/
theorem check_ofLength (hkind : k.isBounded = true) (x : Binary64) :
    (ofLength label k x).check d = none ↔ ∃ m, x.toLength? = some m ∧ m ≤ d.varcharLimit := by
  have htext : (ofLength label k x).checkText = none :=
    checkText_eq_none_iff.2 fun h => by simp [ofLength, Kind.not_text_of_bounded hkind] at h
  have hbounds : (ofLength label k x).checkBounds = none := rfl
  rw [check_eq_none_iff, htext, hbounds, checkLength, length_ofLength hkind]
  cases x.toLength? <;> simp [ofLength, hkind]

theorem varcharLimit_lt (d : Dialect) : d.varcharLimit < 2 ^ 53 := by cases d <;> decide

/-- **Which rules that state a length are accepted.**  A length that the dialect allows is far from
overflowing. -/
theorem validate_lengthParts_iff (hkind : k.isBounded = true) (hkey : key ∉ reservedKeys)
    (hlabel : '|' ∉ label) (hname : name ∈ k.names) (hdigits : Numeral.Digits digits)
    (hn : Nat.ofDigitChars 10 digits 0 = n) {r : Rule} :
    validate d key (lengthParts label name digits).write = .ok r ↔
      r = ofLength label k ⟨false, Binary64.nearest (n * Binary64.one) 1⟩ ∧
        1 ≤ n ∧ n ≤ d.varcharLimit := by
  have hlength := fun m => Binary64.toLength?_nearest_le_iff (n := n) (m := m) (varcharLimit_lt d)
  rw [validate_eq_ok_iff, parse_lengthParts hlabel hname hdigits, Binary64.read?_digits hdigits, hn,
    Binary64.ofQuotient?]
  constructor
  · rintro ⟨-, hparse, hcheck⟩
    split at hparse
    · cases hparse
    next x hx =>
      obtain ⟨-, hx⟩ := Option.ite_none_right_eq_some.1 hx
      obtain rfl := Option.some.inj hx
      obtain rfl := Except.ok.inj hparse
      obtain ⟨m, hm⟩ := (check_ofLength hkind _).1 hcheck
      obtain ⟨hone, hlimit, -⟩ := (hlength m).1 hm
      exact ⟨rfl, hone, hlimit⟩
  · rintro ⟨rfl, hone, hlimit⟩
    have hbound : 2 ^ 53 < Binary64.limit * 1 := by decide +kernel
    have hfinite : Binary64.nearest (n * Binary64.one) 1 < Binary64.overflow :=
      (Binary64.nearest_lt_overflow_iff Nat.one_pos).2 (by have := varcharLimit_lt d; omega)
    rw [if_pos hfinite]
    exact ⟨hkey, rfl, (check_ofLength hkind _).2 ⟨n, (hlength n).2 ⟨hone, hlimit, rfl⟩⟩⟩

/-- **The type of a column that states a length.** -/
theorem write_type_ofLength (hkind : k.isBounded = true) {x : Binary64}
    (hx : x.toLength? = some n) :
    Sql.write d (Field.column d ⟨key, ofLength label k x⟩).type.layout = s!"VARCHAR({n})" := by
  have htype : (Field.column d ⟨key, ofLength label k x⟩).type = ⟨.varchar, some n⟩ := by
    have hstorage : k.storage d = .varchar := by cases k <;> first | rfl | cases hkind
    simp only [Field.column, Kind.columnType, length_ofLength hkind, hx]
    simp [ofLength, hstorage, hkind]
  have hwrite : Sql.write d (ColumnType.layout ⟨.varchar, some n⟩) =
      ColumnType.text ⟨.varchar, some n⟩ := by
    refine String.ext ?_
    rw [toList_text]
    simp [ColumnType.layout, Sql.word, Sql.mark, Sql.Piece.write, Sql.Token.write]
  rw [htype, hwrite]
  rfl

/-! ### What becomes of a length -/

/-- **What becomes of a written length** `n` in a rule for a key. -/
structure LengthFacts (d : Dialect) (key raw : String) (digits : List Char) (n : Nat) : Prop where
  /-- The rule is accepted for the lengths that the dialect allows, and for no others. -/
  accepted : (∃ r, validate d key raw = .ok r) ↔ 1 ≤ n ∧ n ≤ d.varcharLimit
  /-- The length of an accepted rule is the written one, so is that in the type of its column, and
  it is read back from the text of the type. -/
  exact_length : ∀ r, validate d key raw = .ok r →
    r.length = some n ∧ Sql.write d (Field.column d ⟨key, r⟩).type.layout = s!"VARCHAR({n})" ∧
      TypeName.declaredLength? s!"VARCHAR({n})" = some n
  /-- The number is read as the one that it is rounded to, unless that overflows; as a length it is
  an integer that saturates. -/
  rounded : ∃ u, (∀ v, Binary64.IsRounded (n * Binary64.one) v ↔ v = u) ∧
    (Binary64.overflow ≤ u → parse raw = .error (.bound .upper (String.ofList digits))) ∧
    (u < Binary64.overflow → ∃ r, parse raw = .ok r ∧ r.upper = some ⟨false, u⟩ ∧
      r.length = if n = 0 then none else some (min (u / Binary64.one) Binary64.maxLength))

end Rule

/-- **Lengths are exact up to the limit, and refused beyond it.**  A rule for a free key that states
a length of a bounded kind in any digits, and nothing else, is accepted exactly when the number is
from one up to the limit of the dialect; its column has this length. -/
theorem lengths_exact (d : Dialect) {k : Kind} (hkind : k.isBounded = true) {key name : String}
    (hkey : key ∉ reservedKeys) (hname : name ∈ k.names) {label digits : List Char}
    (hlabel : '|' ∉ label) (hdigits : Numeral.Digits digits) :
    Rule.LengthFacts d key (Rule.lengthParts label name digits).write digits
      (Nat.ofDigitChars 10 digits 0) := by
  have hparse := Rule.parse_lengthParts hlabel hname hdigits
  rw [Binary64.read?_digits hdigits, Binary64.ofQuotient?] at hparse
  have hvalidate := fun r => Rule.validate_lengthParts_iff (d := d) (r := r) hkind hkey hlabel hname
    hdigits rfl
  generalize (Rule.lengthParts label name digits).write = raw at *
  generalize Nat.ofDigitChars 10 digits 0 = n at *
  refine ⟨?_, fun r hr => ?_, Binary64.nearest (n * Binary64.one) 1, fun v => ?_, fun hu => ?_,
    fun hu => ?_⟩
  · simp only [hvalidate, exists_eq_left]
  · obtain ⟨rfl, hone, hlimit⟩ := (hvalidate r).1 hr
    have hx := (Binary64.toLength?_nearest_le_iff (Rule.varcharLimit_lt d)).2 ⟨hone, hlimit, rfl⟩
    refine ⟨(Rule.length_ofLength hkind _).trans hx.1, Rule.write_type_ofLength hkind hx.1, ?_⟩
    have hshort : 2 ^ 53 < Numeral.lengthLimit := by decide
    have hn := Rule.varcharLimit_lt d
    exact declaredLength?_text .varchar (by omega)
  · rw [← Binary64.isRounded_iff Nat.one_pos, Nat.cast_one, div_one, Nat.cast_mul]
  · rw [hparse, if_neg (Nat.not_lt.2 hu)]
  · rw [if_pos hu] at hparse
    exact ⟨_, hparse, rfl, (Rule.length_ofLength hkind _).trans (Binary64.toLength?_nearest n)⟩

/-- Under MySQL an address of twenty characters is accepted with zeros before its length, and one of
`2 ^ 64 + 20` characters is refused; that number is rounded, but not to twenty. -/
theorem lengths_exact_addresses :
    (∃ r, Rule.validate .mysql "email" "mail|string|null|0020|null|0|null" = .ok r ∧
      r.length = some 20 ∧
      Sql.write .mysql (Field.column .mysql ⟨"email", r⟩).type.layout = "VARCHAR(20)") ∧
    ¬∃ r, Rule.validate .mysql "email" "mail|string|null|18446744073709551636|null|0|null" =
      .ok r := by
  have hkey : "email" ∉ reservedKeys := by decide
  have hname : "string" ∈ Kind.string.names := by decide
  have hlabel : '|' ∉ "mail".toList := by decide
  have hshort : Numeral.Digits "0020".toList := by decide
  have hlong : Numeral.Digits "18446744073709551636".toList := by decide
  have hshortText : (Rule.lengthParts "mail".toList "string" "0020".toList).write =
      "mail|string|null|0020|null|0|null" := by decide +kernel
  have hlongText : (Rule.lengthParts "mail".toList "string" "18446744073709551636".toList).write =
      "mail|string|null|18446744073709551636|null|0|null" := by decide +kernel
  have hshortValue : Nat.ofDigitChars 10 "0020".toList 0 = 20 := by decide
  have hlongValue : Nat.ofDigitChars 10 "18446744073709551636".toList 0 = 18446744073709551636 := by
    decide
  have hfacts := lengths_exact .mysql rfl hkey hname hlabel hshort
  have hrefused := lengths_exact .mysql rfl hkey hname hlabel hlong
  rw [hshortText, hshortValue] at hfacts
  rw [hlongText, hlongValue] at hrefused
  obtain ⟨r, hr⟩ := hfacts.accepted.2 (by decide)
  obtain ⟨hlength, htype, -⟩ := hfacts.exact_length r hr
  exact ⟨⟨r, hr, hlength, htype⟩, fun h => absurd (hrefused.accepted.1 h).2 (by decide)⟩

end Conform

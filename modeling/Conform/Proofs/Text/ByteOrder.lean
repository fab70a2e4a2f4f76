/-
**Texts are ordered as their bytes are.**

Names are compared byte by byte, in the bytes of UTF-8, while texts are compared character by
character.  The two orders are one: a larger character has a longer encoding, which begins with a
larger byte, or an encoding of the same length whose bytes are the digits of a larger number.

Main definitions:

* `Text.bytes` — the bytes of a text.

Main results:

* `Text.utf8EncodeChar_append_lt` — a text that begins with a larger character has larger bytes;
* `Text.bytes_lt_iff` — **the order of texts is that of their bytes**.
-/

import Mathlib.Order.Basic

set_option relaxedAutoImplicit false
set_option autoImplicit false

namespace Conform

namespace Text

/-- **The bytes of a text**, in UTF-8. -/
def bytes (s : String) : List UInt8 := s.toUTF8.data.toList

/-- The bytes of a text are those of its characters. -/
theorem bytes_eq_flatMap (s : String) : bytes s = s.toList.flatMap String.utf8EncodeChar := by
  have hutf8 : s.toUTF8 = (s.toList.flatMap String.utf8EncodeChar).toByteArray :=
    String.utf8Encode_toList.symm
  rw [bytes, hutf8, List.toList_data_toByteArray]

/-! ### One character -/

theorem utf8EncodeChar_ne_nil (c : Char) : String.utf8EncodeChar c ≠ [] := by
  intro h
  have hlength := String.length_utf8EncodeChar c
  rw [h] at hlength
  exact absurd hlength.symm (Nat.pos_iff_ne_zero.1 c.utf8Size_pos)

/-- Numbers are compared by their last digit in base 64 when the others agree. -/
theorem digit_lt {v w : Nat} (h : v < w) :
    v / 64 < w / 64 ∨ v / 64 = w / 64 ∧ v % 64 < w % 64 := by
  omega

/-- **A text that begins with a larger character has larger bytes**, whatever follows. -/
theorem utf8EncodeChar_append_lt {c d : Char} (h : c < d) (s t : List UInt8) :
    String.utf8EncodeChar c ++ s < String.utf8EncodeChar d ++ t := by
  have hlt : c.val.toNat < d.val.toNat := h
  have hlast : d.val.toNat ≤ 0x10FFFF := by
    have hvalid := d.valid
    simp only [UInt32.isValidChar, Nat.isValidChar] at hvalid
    omega
  simp only [String.utf8EncodeChar]
  generalize c.val.toNat = v at *
  generalize d.val.toNat = w at *
  repeat' split
  all_goals simp only [List.cons_append, List.nil_append, List.cons_lt_cons_iff,
    UInt8.lt_iff_toNat_lt, ← UInt8.toNat_inj, UInt8.toNat_ofNat']
  -- encodings of different lengths differ in their first byte
  any_goals omega
  -- of those of the same length, the longest are compared digit by digit
  have htwo : ∀ n : Nat, n / 4096 = n / 64 / 64 := by omega
  have hthree : ∀ n : Nat, n / 262144 = n / 64 / 64 / 64 := by omega
  rw [htwo, htwo, hthree, hthree]
  rcases digit_lt hlt with hlt | ⟨hfirst, hlt⟩
  · rcases digit_lt hlt with hlt | ⟨hfirst, hlt⟩
    · rcases digit_lt hlt with hlt | ⟨hfirst, hlt⟩ <;> omega
    · omega
  · omega

/-! ### Whole texts -/

theorem flatMap_utf8EncodeChar_lt {x y : List Char} (h : x < y) :
    x.flatMap String.utf8EncodeChar < y.flatMap String.utf8EncodeChar := by
  induction x generalizing y with
  | nil =>
      cases y with
      | nil => exact absurd h (List.lt_irrefl [])
      | cons d y =>
          obtain ⟨b, bs, hb⟩ := List.exists_cons_of_ne_nil (utf8EncodeChar_ne_nil d)
          rw [List.flatMap_nil, List.flatMap_cons, hb]
          exact List.nil_lt_cons b _
  | cons c x ih =>
      cases y with
      | nil => exact absurd h (List.not_lt_nil _)
      | cons d y =>
          rw [List.flatMap_cons, List.flatMap_cons]
          rcases List.cons_lt_cons_iff.1 h with hlt | ⟨rfl, hlt⟩
          · exact utf8EncodeChar_append_lt hlt _ _
          · exact List.append_left_lt (ih hlt)

theorem bytes_lt_of_lt {s t : String} (h : s < t) : bytes s < bytes t := by
  rw [bytes_eq_flatMap, bytes_eq_flatMap]
  exact flatMap_utf8EncodeChar_lt (String.lt_iff.1 h)

/-- **The order of texts is that of their bytes.** -/
theorem bytes_lt_iff {s t : String} : bytes s < bytes t ↔ s < t := by
  refine ⟨fun h => ?_, bytes_lt_of_lt⟩
  by_contra hnot
  by_cases hrev : t < s
  · exact List.lt_asymm h (bytes_lt_of_lt hrev)
  · obtain rfl : t = s := String.le_antisymm (String.not_lt.1 hnot) (String.not_lt.1 hrev)
    exact List.lt_irrefl _ h

end Text

end Conform

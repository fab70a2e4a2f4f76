/-
**Values of defaults, written and read back.**

A number is written in decimal; read back as a default it is the same number.  So a default whose
value is reported as it was stated is the wanted one.

Main definitions:

* `Default.value?` — the value of a default, as databases report it once its quotes are gone.

Main results:

* `Default.integerValue?_toString` — **a number that is written is read back**;
* `Default.agrees_value?` — a default agrees with its own value.
-/

import Conform.Proofs.Numeral.Grammar
import Conform.Rule.Basic

set_option relaxedAutoImplicit false
set_option autoImplicit false

namespace Conform

namespace Default

/-- **A number that is written is read back** as a default. -/
theorem integerValue?_toString (n : Int64) : integerValue? (toString n.toInt) = some n := by
  have hwhole : wholePart? (toString n.toInt).toList = some (toString n.toInt).toList := by
    have hcut : Text.cut '.' (toString n.toInt).toList = none :=
      Text.cut_eq_none_iff.2 (not_mem_toString_int (by decide) (by decide))
    rw [wholePart?, hcut]
  have hlow := Int64.le_toInt n
  have hhigh := Int64.toInt_lt n
  rw [integerValue?, trim_toString_int, hwhole, Option.bind_some, Numeral.int64?,
    integer?_toString, Option.bind_some, if_pos ⟨hlow, hhigh⟩, Int64.ofInt_toInt]

/-- **The value of a default**, if there is a default. -/
def value? : Default → Option String
  | absent => none
  | number n => some (toString n.toInt)
  | text s => some s

/-- A default agrees with its own value. -/
theorem agrees_value? (v : Default) : v.agrees v.value? = true := by
  cases v with
  | absent => rfl
  | number n => exact beq_iff_eq.2 (integerValue?_toString n)
  | text s => exact beq_self_eq_true s

end Default

end Conform

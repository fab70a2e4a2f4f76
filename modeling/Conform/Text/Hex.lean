/-
**Hexadecimal digits.**
-/

set_option relaxedAutoImplicit false
set_option autoImplicit false

namespace Conform

namespace Text

/-- **The value of a hexadecimal digit**, in letters of either case. -/
def hexDigit? (c : Char) : Option Nat :=
  if '0' ≤ c ∧ c ≤ '9' then some (c.toNat - 48)
  else if 'a' ≤ c ∧ c ≤ 'f' then some (c.toNat - 87)
  else if 'A' ≤ c ∧ c ≤ 'F' then some (c.toNat - 55)
  else none

def isHexDigit (c : Char) : Bool := (hexDigit? c).isSome

/-- **The number that some hexadecimal digits are.**  Other characters count as zero. -/
def hexValue (s : List Char) : Nat := s.foldl (fun n c => 16 * n + (hexDigit? c).getD 0) 0

end Text

end Conform

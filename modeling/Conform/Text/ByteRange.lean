/-
**The bytes of a range of characters.**

In UTF-8 a character is one to four bytes.  A range of characters is cut into pieces, in each of
which every byte has a range of its own, whatever the other bytes are.
-/

set_option relaxedAutoImplicit false
set_option autoImplicit false

namespace Conform

namespace Text

/-- **The bytes of a code point** in UTF-8. -/
def utf8Bytes (n : Nat) : List Nat :=
  let later := fun (n : Nat) => 0x80 + n % 0x40
  if n ≤ 0x7F then [n]
  else if n ≤ 0x7FF then [0xC0 + n / 0x40, later n]
  else if n ≤ 0xFFFF then [0xE0 + n / 0x1000, later (n / 0x40), later n]
  else [0xF0 + n / 0x40000, later (n / 0x1000), later (n / 0x40), later n]

def lengthEnds : List Nat := [0x7F, 0x7FF, 0xFFFF]

/-- How many code points differ in their last byte only, in their last two, and in their last three
bytes. -/
def blockSizes : List Nat := [0x40, 0x1000, 0x40000]

/-- Where a range has to be cut so that its ends are in the same block of some size, or at the ends
of blocks. -/
def blockCut? (first last size : Nat) : Option Nat :=
  if first / size = last / size then none
  else if first % size ≠ 0 then some (first / size * size + (size - 1))
  else if last % size ≠ size - 1 then some (last / size * size - 1)
  else none

/-- **Where a range has to be cut first**: the last code point of its first part, and the first one
of the rest.  The surrogates are left out. -/
def firstCut? (first last : Nat) : Option (Nat × Nat) :=
  if first < 0xE000 ∧ 0xD7FF < last then some (0xD7FF, 0xE000)
  else
    match lengthEnds.find? fun n => first ≤ n && n < last with
    | some n => some (n, n + 1)
    | none =>
        if last ≤ 0x7F then none
        else (blockSizes.findSome? (blockCut? first last)).map fun n => (n, n + 1)

/-- The pieces of a range, cut at most `n` times one inside the other. -/
def pieces : Nat → Nat → Nat → List (Nat × Nat)
  | 0, first, last => [(first, last)]
  | n + 1, first, last =>
      match firstCut? first last with
      | some (before, after) => pieces n first before ++ pieces n after last
      | none => [(first, last)]

/-- **The ranges of the bytes of a range of code points**, a list for each piece, in order. -/
def byteSequences (first last : Nat) : List (List (Nat × Nat)) :=
  (pieces 64 first last).map fun r => (utf8Bytes r.1).zip (utf8Bytes r.2)

end Text

end Conform

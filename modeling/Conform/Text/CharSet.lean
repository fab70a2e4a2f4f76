/-
**Sets of characters.**

A set is kept as the ranges of its code points, in increasing order, no two of which touch each
other.  The characters on both sides of the surrogates are neighbours.
-/

set_option relaxedAutoImplicit false
set_option autoImplicit false

namespace Conform

namespace Text

/-- **A set of characters**: the ranges of their code points, from the first to the last of each. -/
structure CharSet where
  ranges : List (Nat × Nat)
  deriving DecidableEq, Repr

namespace CharSet

/-! ### Which characters are in a set -/

/-- **Whether a character is in the set.** -/
def has (s : CharSet) (c : Char) : Bool :=
  s.ranges.any fun r => r.1 ≤ c.toNat && c.toNat ≤ r.2

def empty : CharSet := ⟨[]⟩

def lastCode : Nat := 0x10FFFF

def full : CharSet := ⟨[(0, lastCode)]⟩

def single (c : Char) : CharSet := ⟨[(c.toNat, c.toNat)]⟩

def isAscii (s : CharSet) : Bool := s.ranges.all fun r => r.2 ≤ 0x7F

def single? (s : CharSet) : Option Char :=
  match s.ranges with
  | [(first, last)] => if first = last then some (Char.ofNat first) else none
  | _ => none

/-! ### Operations -/

/-- Joins ranges that touch each other, of a list in increasing order.  `r` is the range that is
being made. -/
def joinFrom (r : Nat × Nat) : List (Nat × Nat) → List (Nat × Nat)
  | [] => [r]
  | q :: rest => if q.1 ≤ r.2 + 1 then joinFrom (r.1, max r.2 q.2) rest else r :: joinFrom q rest

/-- Joins ranges that touch each other, of a list in increasing order. -/
def join : List (Nat × Nat) → List (Nat × Nat)
  | [] => []
  | r :: rest => joinFrom r rest

/-- **The set of some ranges**, in any order. -/
def ofRanges (ranges : List (Nat × Nat)) : CharSet :=
  ⟨join (ranges.mergeSort fun q r => q.1 < r.1 || (q.1 == r.1 && q.2 ≤ r.2))⟩

def ofList (cs : List Char) : CharSet := ofRanges (cs.map fun c => (c.toNat, c.toNat))

def union (s t : CharSet) : CharSet := ofRanges (s.ranges ++ t.ranges)

def following (n : Nat) : Nat := if n = 0xD7FF then 0xE000 else n + 1

def preceding (n : Nat) : Nat := if n = 0xE000 then 0xD7FF else n - 1

def between (m n : Nat) : Nat × Nat := (min m n, max m n)

/-- The gaps after a range and between those that follow it. -/
def gapsFrom (r : Nat × Nat) : List (Nat × Nat) → List (Nat × Nat)
  | [] => if r.2 < lastCode then [between (following r.2) lastCode] else []
  | q :: rest => between (following r.2) (preceding q.1) :: gapsFrom q rest

/-- **The characters that are not in the set.** -/
def compl (s : CharSet) : CharSet :=
  match s.ranges with
  | [] => full
  | r :: rest => ⟨(if 0 < r.1 then [(0, preceding r.1)] else []) ++ gapsFrom r rest⟩

/-- **The characters that are in both sets.** -/
def inter (s t : CharSet) : CharSet :=
  ⟨s.ranges.flatMap fun r => t.ranges.filterMap fun q =>
    let first := max r.1 q.1
    let last := min r.2 q.2
    if first ≤ last then some (first, last) else none⟩

def without (r q : Nat × Nat) : List (Nat × Nat) :=
  if q.2 < r.1 ∨ r.2 < q.1 then [r]
  else
    (if r.1 < q.1 then [between r.1 (preceding q.1)] else []) ++
      if q.2 < r.2 then [between (following q.2) r.2] else []

/-- **The characters of the first set that are not in the second.** -/
def diff (s t : CharSet) : CharSet :=
  ⟨s.ranges.flatMap fun r => t.ranges.foldl (fun rs q => rs.flatMap (without · q)) [r]⟩

/-- The part of a range of letters that is in a range, moved to the letters of the other case. -/
def otherCase (first last target : Nat) (r : Nat × Nat) : List (Nat × Nat) :=
  let low := max r.1 first
  let high := min r.2 last
  if low ≤ high then [(target + (low - first), target + (high - first))] else []

/-- **The set with the other letter case of its ASCII letters.** -/
def anyCase (s : CharSet) : CharSet :=
  ofRanges (s.ranges.flatMap fun r =>
    r :: otherCase 0x61 0x7A 0x41 r ++ otherCase 0x41 0x5A 0x61 r)

/-! ### Sets with names -/

def digits : CharSet := ⟨[(0x30, 0x39)]⟩

def spaces : CharSet := ⟨[(0x9, 0xD), (0x20, 0x20)]⟩

def words : CharSet := ⟨[(0x30, 0x39), (0x41, 0x5A), (0x5F, 0x5F), (0x61, 0x7A)]⟩

def named? (name : String) : Option CharSet :=
  if name = "alnum" then some ⟨[(0x30, 0x39), (0x41, 0x5A), (0x61, 0x7A)]⟩
  else if name = "alpha" then some ⟨[(0x41, 0x5A), (0x61, 0x7A)]⟩
  else if name = "ascii" then some ⟨[(0x0, 0x7F)]⟩
  else if name = "blank" then some ⟨[(0x9, 0x9), (0x20, 0x20)]⟩
  else if name = "cntrl" then some ⟨[(0x0, 0x1F), (0x7F, 0x7F)]⟩
  else if name = "digit" then some digits
  else if name = "graph" then some ⟨[(0x21, 0x7E)]⟩
  else if name = "lower" then some ⟨[(0x61, 0x7A)]⟩
  else if name = "print" then some ⟨[(0x20, 0x7E)]⟩
  else if name = "punct" then some ⟨[(0x21, 0x2F), (0x3A, 0x40), (0x5B, 0x60), (0x7B, 0x7E)]⟩
  else if name = "space" then some spaces
  else if name = "upper" then some ⟨[(0x41, 0x5A)]⟩
  else if name = "word" then some words
  else if name = "xdigit" then some ⟨[(0x30, 0x39), (0x41, 0x46), (0x61, 0x66)]⟩
  else none

end CharSet

end Text

end Conform

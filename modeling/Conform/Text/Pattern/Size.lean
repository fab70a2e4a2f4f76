/-
**How large a pattern is for a machine that looks for it.**

The machine has states, which are joined by ranges of bytes.  It is built twice: once to read texts
forward, and once to read them backward.  The size is counted without building it.
-/

import Conform.Text.ByteRange
import Conform.Text.Pattern

set_option relaxedAutoImplicit false
set_option autoImplicit false

namespace Conform

namespace Text

namespace Pattern

/-- **How a machine reads.** -/
inductive Direction
  | forward
  | backward
  deriving DecidableEq, Repr

/-! ### Parts of a machine -/

def stateSize : Nat := 32

/-- One way out of a state that reads nothing. -/
def branchSize : Nat := 4

/-- One way out of a state that reads a byte, where there are several. -/
def rangeSize : Nat := 8

/-- A state with several ways that read a byte. -/
def tableSize (ways : Nat) : Nat := stateSize + rangeSize * ways

def forkSize (ways : Nat) : Nat := stateSize + branchSize * ways

/-! ### Sets -/

/-- Sequences in groups that begin with the same element, each without it.  Sequences without
elements are left out. -/
def groups {α : Type} [DecidableEq α] : List (List α) → List (α × List (List α))
  | [] => []
  | [] :: rest => groups rest
  | (a :: s) :: rest =>
      let gs := groups rest
      if gs.any (·.1 = a) then gs.map fun g => if g.1 = a then (g.1, s :: g.2) else g
      else (a, [s]) :: gs

/-- The states of a machine that reads one of some sequences: each is what may still be read in it.
The sequences have at most `n` elements. -/
def sequenceStates : Nat → List (List (Nat × Nat)) → List (List (List (Nat × Nat)))
  | 0, _ => []
  | n + 1, seqs =>
      if seqs.all List.isEmpty then []
      else seqs :: (groups seqs).flatMap fun g => sequenceStates n g.2

def beginnings {α : Type} : List α → List (List α)
  | [] => []
  | a :: s => [a] :: (beginnings s).map (a :: ·)

def setSize (d : Direction) (s : CharSet) : Nat :=
  if s.isAscii then stateSize + tableSize s.ranges.length
  else
    let seqs := s.ranges.flatMap fun r => byteSequences r.1 r.2
    match d with
    | .forward =>
        let states := (sequenceStates 4 seqs).eraseDups
        stateSize + total (states.map fun t => tableSize (groups t).length)
    | .backward =>
        stateSize + forkSize seqs.length + stateSize * (seqs.flatMap beginnings).eraseDups.length

/-! ### Choices of words -/

/-- The parts of a list between the elements that fulfil a condition. -/
def partsBetween {α : Type} (p : α → Bool) : List α → List (List α)
  | [] => [[]]
  | a :: s =>
      if p a then [] :: partsBetween p s
      else match partsBetween p s with
        | part :: parts => (a :: part) :: parts
        | [] => [[a]]

/-- The size of a tree of words, which have at most `n` letters.  A word that ends in a node parts
the words before it from those after it. -/
def treeSize : Nat → List (List Nat) → Nat
  | 0, _ => 0
  | n + 1, words =>
      let words := match words with
        | [] :: rest => [] :: rest.dropWhile List.isEmpty
        | words => words
      if words.all List.isEmpty then 0
      else
        let parts := (partsBetween List.isEmpty words).map groups
        let full := parts.filter (!·.isEmpty)
        forkSize (parts.length - 1 + full.length) +
          total (full.map fun gs =>
            (if gs.length = 1 then stateSize else tableSize gs.length) +
              total (gs.map fun g => treeSize n g.2))

def wordBytes (d : Direction) (s : List Char) : List Nat :=
  let bytes := s.flatMap fun c => utf8Bytes c.toNat
  match d with
  | .forward => bytes
  | .backward => bytes.reverse

def word? (d : Direction) : Pattern → Option (List Nat)
  | literal (c :: s) => some (wordBytes d (c :: s))
  | _ => none

/-! ### Patterns -/

def timesSize (p : Pattern) (size least : Nat) (most : Option Nat) : Nat :=
  let always := if least = 0 then stateSize else least * size
  match most with
  | some most =>
      if least = most then always
      else if least = 0 ∧ most = 1 then stateSize + forkSize 2 + size
      else always + stateSize + (most - least) * (forkSize 2 + size)
  | none =>
      if 0 < least then always + forkSize 2
      else if p.leastLength.any (0 < ·) then forkSize 2 + size
      else size + 2 * forkSize 2 + stateSize

/-- The size of the part of a machine that a pattern is; `within` tells whether the pattern is a
branch of a choice. -/
def sizeIn (d : Direction) : Bool → Pattern → Nat
  | within, alt p q =>
      match (if within then none else (branches (alt p q)).mapM (word? d)) with
      | some words => stateSize + treeSize ((words.map List.length).foldl max 0 + 1) words
      | none =>
          (if within then 0 else 2 * stateSize) + sizeIn d true p + sizeIn d true q
  | within, p => (if within then branchSize else 0) + match p with
      | literal [] => stateSize
      | literal s => stateSize * (wordBytes d s).length
      | one s => setSize d s
      | place _ => stateSize
      | seq p q => sizeIn d false p + sizeIn d false q
      | alt _ _ => 0
      | times p least most => timesSize p (sizeIn d false p) least most
      | group p => (if d = .forward then 2 * stateSize else 0) + sizeIn d false p

/-- Whether matches begin, or end, where the machine begins to read the text. -/
def isAnchored (d : Direction) (p : Pattern) : Bool :=
  match d with
  | .forward => p.startsText
  | .backward => p.endsText

/-- **The size of the machine for a pattern.**  A pattern that may match anywhere needs a loop
before it. -/
def machineSize (d : Direction) (p : Pattern) : Nat :=
  (if p.isAnchored d then stateSize else forkSize 2 + stateSize + tableSize 1) +
    (if d = .forward then 2 * stateSize else 0) + sizeIn d false p + stateSize

end Pattern

end Text

end Conform

/-
**Patterns: which texts hold a match.**

A pattern is a regular expression with conditions on the place between two characters.  To look
for it in a text, the patterns that may still match are kept in a list and followed one character
at a time: `Pattern.after` gives what remains to be matched after a character, and
`Pattern.holdsAt` whether nothing need remain.

Main definitions:

* `Place` — conditions on the characters before and after a place;
* `Pattern` — **patterns**;
* `Pattern.isFoundIn` — **whether some part of a text matches**;
* `Pattern.repeated`, `Pattern.concat`, `Pattern.choice` — repetitions, sequences and choices in
  their simplest form.
-/

import Conform.Text.CharSet

set_option relaxedAutoImplicit false
set_option autoImplicit false

namespace Conform

namespace Text

/-! ### Places -/

/-- A condition on whether the characters before and after a place are characters of words. -/
inductive WordEdge
  /-- Exactly one of them is. -/
  | some
  | none
  | start
  | finish
  /-- The one before is not. -/
  | startHalf
  /-- The one after is not. -/
  | finishHalf
  deriving DecidableEq, Repr

def WordEdge.holds (before after : Bool) : WordEdge → Bool
  | some => before != after
  | none => before == after
  | start => !before && after
  | finish => before && !after
  | startHalf => !before
  | finishHalf => !after

/-- **A condition on a place in a text.** -/
inductive Place
  | textStart
  | textEnd
  /-- The beginning of a line; lines may also end in a carriage return, with or without a line
  feed after it. -/
  | lineStart (returns : Bool)
  | lineEnd (returns : Bool)
  /-- An edge of words, of ASCII characters or of those of Unicode. -/
  | word (edge : WordEdge) (unicode : Bool)
  deriving DecidableEq, Repr

/-- **Whether a place fulfils a condition**, given the characters before it and after it.  Patterns
that ask for the words of Unicode are not looked for; the words here are those of ASCII. -/
def Place.holds (previous next : Option Char) : Place → Bool
  | textStart => previous.isNone
  | textEnd => next.isNone
  | lineStart returns =>
      previous.isNone || previous == some '\n' ||
        (returns && previous == some '\r' && next != some '\n')
  | lineEnd returns =>
      if returns then
        next.isNone || next == some '\r' || (next == some '\n' && previous != some '\r')
      else next.isNone || next == some '\n'
  | word edge _ => edge.holds (previous.any CharSet.words.has) (next.any CharSet.words.has)

/-! ### Patterns -/

/-- **A pattern.** -/
inductive Pattern
  /-- Some characters one after the other; without any, the empty pattern. -/
  | literal (s : List Char)
  | one (s : CharSet)
  | place (p : Place)
  | seq (p q : Pattern)
  | alt (p q : Pattern)
  /-- A number of matches one after the other, at least `least` and at most `most`. -/
  | times (p : Pattern) (least : Nat) (most : Option Nat)
  | group (p : Pattern)
  deriving DecidableEq, Repr

namespace Pattern

def empty : Pattern := literal []

/-! ### Looking for a pattern -/

def join (p q : Pattern) : Pattern := if p = empty then q else seq p q

/-- **Whether a pattern matches without any character**, at a place. -/
def holdsAt (previous next : Option Char) : Pattern → Bool
  | literal s => s.isEmpty
  | one _ => false
  | place p => p.holds previous next
  | seq p q => p.holdsAt previous next && q.holdsAt previous next
  | alt p q => p.holdsAt previous next || q.holdsAt previous next
  | times p least _ => least == 0 || p.holdsAt previous next
  | group p => p.holdsAt previous next

/-- **What may remain of a pattern after a character.**  Matches without a character count as many
times as they are needed. -/
def after (previous : Option Char) (c : Char) : Pattern → List Pattern
  | literal (d :: s) => if c = d then [literal s] else []
  | literal [] | place _ => []
  | one s => if s.has c then [empty] else []
  | seq p q =>
      (p.after previous c).map (·.join q) ++
        if p.holdsAt previous (some c) then q.after previous c else []
  | alt p q => p.after previous c ++ q.after previous c
  | times p least most =>
      if most = some 0 then []
      else
        let least := if p.holdsAt previous (some c) then 0 else least - 1
        (p.after previous c).map (·.join (times p least (most.map (· - 1))))
  | group p => p.after previous c

/-- Whether one of some patterns matches from here on, or the pattern `p` from a later place on. -/
def isFoundFrom (p : Pattern) : Option Char → List Pattern → List Char → Bool
  | previous, alive, [] => alive.any (·.holdsAt previous none)
  | previous, alive, c :: s =>
      alive.any (·.holdsAt previous (some c)) ||
        isFoundFrom p (some c) (p :: alive.flatMap (after previous c)).eraseDups s

/-- **Whether some part of a text matches a pattern.** -/
def isFoundIn (p : Pattern) (s : List Char) : Bool := isFoundFrom p none [p] s

/-! ### Lengths -/

/-- The least number of characters of a match; none if there is no match. -/
def leastLength : Pattern → Option Nat
  | literal s => some s.length
  | one s => if s.ranges.isEmpty then none else some 1
  | place _ => some 0
  | seq p q => p.leastLength.bind fun m => q.leastLength.map (m + ·)
  | alt p q => p.leastLength.bind fun m => q.leastLength.map (min m ·)
  | times p least _ => p.leastLength.map (least * ·)
  | group p => p.leastLength

def isVoid : Pattern → Bool
  | literal s => s.isEmpty
  | one _ => false
  | place _ => true
  | seq p q | alt p q => p.isVoid && q.isVoid
  | times p _ most => most.isSome && p.isVoid
  | group p => p.isVoid

def startsText : Pattern → Bool
  | place p => p == .textStart
  | seq p q => p.startsText || (p.isVoid && q.startsText)
  | alt p q => p.startsText && q.startsText
  | times p least _ => 0 < least && p.startsText
  | group p => p.startsText
  | literal _ | one _ => false

def endsText : Pattern → Bool
  | place p => p == .textEnd
  | seq p q => q.endsText || (q.isVoid && p.endsText)
  | alt p q => p.endsText && q.endsText
  | times p least _ => 0 < least && p.endsText
  | group p => p.endsText
  | literal _ | one _ => false

def asksForWords : Pattern → Bool
  | place (.word _ unicode) => unicode
  | place _ | literal _ | one _ => false
  | seq p q | alt p q => p.asksForWords || q.asksForWords
  | times p _ _ | group p => p.asksForWords

/-! ### Simplest forms -/

def ofSet (s : CharSet) : Pattern :=
  match s.single? with
  | some c => literal [c]
  | none => one s

/-- **A repetition.**  What matches without characters only is not repeated. -/
def repeated (p : Pattern) (least : Nat) (most : Option Nat) : Pattern :=
  let least := if p.isVoid then min least 1 else least
  let most := if p.isVoid then some ((most.map (min · 1)).getD 1) else most
  if most = some 0 then empty
  else if least = 1 ∧ most = some 1 then p
  else times p least most

def items : Pattern → List Pattern
  | seq p q => p.items ++ q.items
  | literal [] => []
  | p => [p]

def branches : Pattern → List Pattern
  | alt p q => p.branches ++ q.branches
  | p => [p]

/-- Patterns one after the other, where characters next to each other make one literal. -/
def mergeLiterals : List Pattern → List Pattern
  | [] => []
  | p :: ps =>
      match p, mergeLiterals ps with
      | literal s, literal t :: rest => literal (s ++ t) :: rest
      | p, rest => p :: rest

def fold (f : Pattern → Pattern → Pattern) : List Pattern → Pattern
  | [] => empty
  | [p] => p
  | p :: q :: ps => f p (fold f (q :: ps))

/-- **A sequence.** -/
def concat (ps : List Pattern) : Pattern := fold seq (mergeLiterals (ps.flatMap items))

def char? : Pattern → Option CharSet
  | literal [c] => some (.single c)
  | _ => none

def set? : Pattern → Option CharSet
  | one s => some s
  | _ => none

def commonSet? (ps : List Pattern) : Option CharSet :=
  ((ps.mapM char?).or (ps.mapM set?)).map fun sets => .ofRanges (sets.flatMap (·.ranges))

def remembers : Pattern → Bool
  | literal _ | one _ | place _ => false
  | seq p q | alt p q => p.remembers || q.remembers
  | times p _ _ => p.remembers
  | group _ => true

/-- The first items that two sequences have in common.  What is remembered is remembered apart. -/
def commonStart : List Pattern → List Pattern → List Pattern
  | p :: ps, q :: qs => if p = q ∧ !p.remembers then p :: commonStart ps qs else []
  | _, _ => []

/-- The first items that all branches have in common, if each of them is a sequence. -/
def commonItems (ps : List Pattern) : List Pattern :=
  match ps.map items with
  | is :: rest =>
      if (is :: rest).all (1 < ·.length) then rest.foldl commonStart is else []
  | [] => []

def total (ns : List Nat) : Nat := ns.foldl (· + ·) 0

/-- A choice of branches that are no choices themselves.  What all of them begin with is said once,
at most `n` times one inside the other. -/
def choiceOf : Nat → List Pattern → Pattern
  | _, [p] => p
  | 0, ps => fold alt ps
  | n + 1, ps =>
      match commonSet? ps with
      | some s => ofSet s
      | none =>
          match commonItems ps with
          | [] => fold alt ps
          | first =>
              let rest := ps.map fun p => concat (p.items.drop first.length)
              concat (first ++ [choiceOf n (rest.flatMap branches)])

/-- **A choice.** -/
def choice (ps : List Pattern) : Pattern :=
  let ps := ps.flatMap branches
  choiceOf (total (ps.map (·.items.length))) ps

end Pattern

end Text

end Conform

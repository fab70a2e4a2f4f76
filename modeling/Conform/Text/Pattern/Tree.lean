/-
**The written form of a pattern.**

What is written in a pattern is kept as a tree, with the part of the text that each of its nodes was
read from.  Only then its meaning is looked for.
-/

import Conform.Text.Pattern
import Conform.Text.Pattern.Fault

set_option relaxedAutoImplicit false
set_option autoImplicit false

namespace Conform

namespace Text

namespace Pattern

/-! ### Trees -/

/-- **A character as it is written.** -/
structure Written where
  span : Span
  char : Char
  /-- Whether it is written with exactly two hexadecimal digits, like a byte. -/
  isByte : Bool := false
  deriving DecidableEq, Repr

inductive SetOperator
  | inter
  | diff
  | xor
  deriving DecidableEq, Repr

/-- **What is written in brackets.** -/
inductive ClassTree
  | nothing (span : Span)
  | char (w : Written)
  | range (span : Span) (first last : Written)
  | named (span : Span) (set : CharSet) (negated : Bool)
  /-- A property of Unicode, with its name if that is all there is. -/
  | property (span : Span) (name : Option (List Char))
  | letter (span : Span) (set : CharSet) (negated : Bool)
  | bracket (span : Span) (negated : Bool) (inside : ClassTree)
  | union (span : Span) (parts : List ClassTree)
  | operation (span : Span) (op : SetOperator) (left right : ClassTree)

def ClassTree.span : ClassTree → Span
  | nothing span | range span _ _ | named span _ _ | property span _ | letter span _ _
  | bracket span _ _ | union span _ | operation span _ _ _ => span
  | char w => w.span

inductive Sight
  | lineStart
  | lineEnd
  | textStart
  | textEnd
  | word (edge : WordEdge)
  deriving DecidableEq, Repr

abbrev FlagLetters : Type := List (Char × Bool)

/-- **What is written in a pattern.** -/
inductive Tree
  | empty (span : Span)
  | flags (span : Span) (letters : FlagLetters)
  | char (w : Written)
  | dot (span : Span)
  | sight (span : Span) (s : Sight)
  | property (span : Span) (name : Option (List Char))
  | letter (span : Span) (set : CharSet) (negated : Bool)
  | bracket (span : Span) (negated : Bool) (inside : ClassTree)
  | times (span : Span) (inside : Tree) (least : Nat) (most : Option Nat)
  | group (span : Span) (remembered : Bool) (letters : FlagLetters) (inside : Tree)
  | alt (span : Span) (branches : List Tree)
  | seq (span : Span) (items : List Tree)

def Tree.span : Tree → Span
  | empty span | flags span _ | dot span | sight span _ | property span _ | letter span _ _
  | bracket span _ _ | times span _ _ _ | group span _ _ _ | alt span _ | seq span _ => span
  | char w => w.span

/-! ### Depth -/

def depthLimit : Nat := 250

/-- The fault of a part that is nested in `depth` others, if that is too deep. -/
def depthFault (span : Span) (depth : Nat) : Option Misreading :=
  if depthLimit ≤ depth then some ⟨.tooDeep depthLimit, span, none⟩ else none

mutual

def ClassTree.depthFault? (depth : Nat) : ClassTree → Option Misreading
  | .bracket span _ inside => (depthFault span depth).or (inside.depthFault? (depth + 1))
  | .union span parts => (depthFault span depth).or (partsDepthFault? (depth + 1) parts)
  | .operation span _ left right =>
      ((depthFault span depth).or (left.depthFault? (depth + 1))).or
        (right.depthFault? (depth + 1))
  | .nothing _ | .char _ | .range .. | .named .. | .property .. | .letter .. => none

def partsDepthFault? (depth : Nat) : List ClassTree → Option Misreading
  | [] => none
  | t :: ts => (t.depthFault? depth).or (partsDepthFault? depth ts)

end

mutual

/-- **The first part that is nested too deep**, of a tree that is nested in `depth` others. -/
def Tree.depthFault? (depth : Nat) : Tree → Option Misreading
  | .bracket span _ inside => (depthFault span depth).or (inside.depthFault? (depth + 1))
  | .times span inside _ _ => (depthFault span depth).or (inside.depthFault? (depth + 1))
  | .group span _ _ inside => (depthFault span depth).or (inside.depthFault? (depth + 1))
  | .alt span branches => (depthFault span depth).or (treesDepthFault? (depth + 1) branches)
  | .seq span items => (depthFault span depth).or (treesDepthFault? (depth + 1) items)
  | .empty _ | .flags .. | .char _ | .dot _ | .sight .. | .property .. | .letter .. => none

def treesDepthFault? (depth : Nat) : List Tree → Option Misreading
  | [] => none
  | t :: ts => (t.depthFault? depth).or (treesDepthFault? depth ts)

end

end Pattern

end Text

end Conform

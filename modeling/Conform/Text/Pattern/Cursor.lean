/-
**Places while a pattern is read.**
-/

import Conform.Text.Blank
import Conform.Text.Pattern.Fault

set_option relaxedAutoImplicit false
set_option autoImplicit false

namespace Conform

namespace Text

namespace Pattern

/-- **A place in the text of a pattern**, and the rest of the text.  `spaced` tells whether blanks
and comments stand for nothing there. -/
structure Cursor where
  spot : Spot
  rest : List Char
  spaced : Bool
  deriving DecidableEq, Repr

namespace Cursor

def ofText (text : String) : Cursor := ⟨{}, text.toList, false⟩

def isAtEnd (c : Cursor) : Bool := c.rest.isEmpty

def peek? (c : Cursor) : Option Char := c.rest.head?

def sees (c : Cursor) (d : Char) : Bool := c.peek? == some d

/-- **The place after the next character.** -/
def next (c : Cursor) : Cursor :=
  match c.rest with
  | d :: rest => ⟨c.spot.past d, rest, c.spaced⟩
  | [] => c

def skip : Nat → Cursor → Cursor
  | 0, c => c
  | n + 1, c => skip n c.next

def skipWhile (p : Char → Bool) (c : Cursor) : Cursor := c.skip (c.rest.takeWhile p).length

def past? (c : Cursor) (word : String) : Option Cursor :=
  if word.toList.isPrefixOf c.rest then some (c.skip word.length) else none

def skipGaps : Nat → Cursor → Cursor
  | 0, c => c
  | n + 1, c =>
      let c := c.skipWhile isBlank
      if c.sees '#' then skipGaps n (c.skipWhile (· != '\n')).next else c

/-- **The place after the blanks and comments that come next**, where they stand for nothing. -/
def skipGap (c : Cursor) : Cursor := if c.spaced then c.skipGaps (c.rest.length + 1) else c

/-- **The place after the next character and what stands for nothing after it.** -/
def onward (c : Cursor) : Cursor := c.next.skipGap

/-- What the blanks and signs of comments that a text begins with are followed by; none if nothing
else is there.  Only the first sign of a comment is passed over. -/
def pastBlanks? (inComment : Bool) : List Char → Option (List Char)
  | [] => none
  | d :: s =>
      if isBlank d then pastBlanks? inComment s
      else if d = '#' ∧ !inComment then pastBlanks? true s
      else some (d :: s)

/-- The character after the next one, without blanks where they stand for nothing. -/
def second? (c : Cursor) : Option Char :=
  if c.spaced then ((pastBlanks? false c.rest.tail).getD c.rest.tail).head?
  else c.rest.tail.head?

def upTo (c d : Cursor) : Span := ⟨c.spot, d.spot⟩

def here (c : Cursor) : Span := c.upTo c.next

end Cursor

abbrev Read (α : Type) : Type := Except Misreading α

def fail {α : Type} (fault : Fault) (span : Span) : Read α := .error ⟨fault, span, none⟩

end Pattern

end Text

end Conform

/-
**What a written pattern means.**

The parts of a pattern are taken from left to right, and with them the flags that are switched on.
The classes and the letter case of Unicode are not known: a pattern that needs them has no meaning.
Without Unicode a set can hold ASCII characters only.

Main definitions:

* `Pattern.Flags` — what is switched on at a place;
* `ClassTree.addTo` — the characters that something in brackets stands for;
* `Tree.meaning` — **the pattern that is written**.
-/

import Conform.Text.Cut
import Conform.Text.Pattern.Tree
import Conform.Text.Pattern.Cursor

set_option relaxedAutoImplicit false
set_option autoImplicit false

namespace Conform

namespace Text

namespace Pattern

/-! ### Flags -/

/-- **What is switched on.** -/
structure Flags where
  /-- Whether letters stand for both letter cases. -/
  anyCase : Bool := false
  /-- Whether the signs for the ends of the text are about lines. -/
  lines : Bool := false
  /-- Whether the dot also stands for what ends a line. -/
  dotAll : Bool := false
  /-- Whether lines may end in carriage returns. -/
  returns : Bool := false
  unicode : Bool := true
  deriving DecidableEq, Repr

/-- With one flag switched.  Letters that change no match have no effect. -/
def Flags.switch (f : Flags) (letter : Char × Bool) : Flags :=
  if letter.1 = 'i' then { f with anyCase := letter.2 }
  else if letter.1 = 'm' then { f with lines := letter.2 }
  else if letter.1 = 's' then { f with dotAll := letter.2 }
  else if letter.1 = 'R' then { f with returns := letter.2 }
  else if letter.1 = 'u' then { f with unicode := letter.2 }
  else f

def Flags.switchAll (f : Flags) (letters : FlagLetters) : Flags := letters.foldl Flags.switch f

/-! ### Sets -/

/-- **A set, and whether it is known to hold both letter cases of its letters.** -/
structure CasedSet where
  set : CharSet
  closed : Bool
  deriving DecidableEq, Repr

namespace CasedSet

def empty : CasedSet := ⟨.empty, true⟩

def isEmpty (s : CasedSet) : Bool := s.set.ranges.isEmpty

def insert (s : CasedSet) (first last : Char) : CasedSet :=
  ⟨s.set.union (.ofRanges [(first.toNat, last.toNat)]), false⟩

def union (s t : CasedSet) : CasedSet :=
  if t.isEmpty ∨ s.set = t.set then s else ⟨s.set.union t.set, s.closed && t.closed⟩

def inter (s t : CasedSet) : CasedSet :=
  if s.isEmpty then s
  else if t.isEmpty then empty
  else ⟨s.set.inter t.set, s.closed && t.closed⟩

def diff (s t : CasedSet) : CasedSet :=
  if s.isEmpty ∨ t.isEmpty then s else ⟨s.set.diff t.set, s.closed && t.closed⟩

def operate (s t : CasedSet) : SetOperator → CasedSet
  | .inter => s.inter t
  | .diff => s.diff t
  | .xor => (s.union t).diff (s.inter t)

def compl (s : CasedSet) : CasedSet :=
  if s.isEmpty then ⟨.full, true⟩ else ⟨s.set.compl, s.closed⟩

/-- The set with both letter cases where the flags ask for it, written in a part of the text. -/
def fold (f : Flags) (span : Span) (s : CasedSet) : Read CasedSet :=
  if !f.anyCase || s.closed then .ok s
  else if !f.unicode then .ok ⟨s.set.anyCase, true⟩
  else if s.isEmpty then .ok ⟨s.set, true⟩
  else fail .letterCase span

/-- **A set that is written as a whole**: with both letter cases where the flags ask for it, and
then negated.  Without Unicode it holds ASCII characters only. -/
def whole (f : Flags) (span : Span) (negated : Bool) (s : CasedSet) : Read CasedSet := do
  let s ← s.fold f span
  let s := if negated then s.compl else s
  if !f.unicode && !s.set.isAscii then fail .encoding span else return s

end CasedSet

/-- The set that a letter stands for, which is known without Unicode only. -/
def letterMeaning (f : Flags) (span : Span) (set : CharSet) (negated : Bool) : Read CharSet :=
  if f.unicode then fail .letterClass span
  else if negated then fail .encoding span
  else .ok set

/-- The name of a property as it is compared: in lower case, without blanks and lines, and without
"is" at the beginning. -/
def comparedName (name : List Char) : List Char :=
  let lowered := name.map Char.toLower
  let name := if ['i', 's'].isPrefixOf lowered then name.drop 2 else name
  (name.filter fun c => c.toNat ≤ 0x7F && c != ' ' && c != '_' && c != '-').map Char.toLower

/-- What is wrong with a property of Unicode.  Some names are looked for among values only. -/
def propertyFault (f : Flags) (name : Option (List Char)) : Fault :=
  let names := [['c', 'f'], ['s', 'c'], ['l', 'c']]
  if !f.unicode then .unicode
  else if name.any fun name => names.contains (comparedName name) then .propertyValue
  else .property

def Written.inSet (f : Flags) (w : Written) : Read Char :=
  if f.unicode || w.char.toNat ≤ 0x7F then .ok w.char
  else if w.isByte then fail .encoding w.span
  else fail .unicode w.span

mutual

/-- **A set with what something in brackets stands for.** -/
def ClassTree.addTo (f : Flags) (s : CasedSet) : ClassTree → Read CasedSet
  | .nothing _ => .ok s
  | .char w => do
      let c ← w.inSet f
      return s.insert c c
  | .range _ first last => do
      let first ← first.inSet f
      let last ← last.inSet f
      return s.insert first last
  | .named span set negated => do
      return s.union (← CasedSet.whole f span negated ⟨set, false⟩)
  | .property span name => fail (propertyFault f name) span
  | .letter span set negated => do
      return s.union ⟨← letterMeaning f span set negated, false⟩
  | .bracket span negated inside => do
      return s.union (← (← inside.addTo f .empty).whole f span negated)
  | .union _ parts => addAllTo f s parts
  | .operation _ op left right => do
      let l ← left.addTo f .empty
      let r ← right.addTo f .empty
      let r ← r.fold f right.span
      let l ← l.fold f left.span
      return s.union (l.operate r op)

def addAllTo (f : Flags) (s : CasedSet) : List ClassTree → Read CasedSet
  | [] => .ok s
  | t :: ts => do addAllTo f (← t.addTo f s) ts

end

/-! ### Patterns -/

def dotSet (f : Flags) : CharSet :=
  if f.dotAll then .full
  else CharSet.compl (.ofList (if f.returns then ['\n', '\r'] else ['\n']))

def Written.meaning (f : Flags) (w : Written) : Read Pattern :=
  if f.unicode then
    if f.anyCase then fail .letterCase w.span else .ok (literal [w.char])
  else if w.isByte && 0x7F < w.char.toNat then fail .encoding w.span
  else if f.anyCase && w.char.isAlpha then .ok (one (CharSet.single w.char).anyCase)
  else .ok (literal [w.char])

def Sight.place (f : Flags) : Sight → Place
  | textStart => .textStart
  | textEnd => .textEnd
  | lineStart => if f.lines then .lineStart f.returns else .textStart
  | lineEnd => if f.lines then .lineEnd f.returns else .textEnd
  | word edge => .word edge f.unicode

mutual

/-- **The pattern that is written**, and the flags after it. -/
def Tree.meaning (f : Flags) : Tree → Read (Pattern × Flags)
  | .empty _ => .ok (Pattern.empty, f)
  | .flags _ letters => .ok (Pattern.empty, f.switchAll letters)
  | .char w => (w.meaning f).map (·, f)
  | .dot span => if f.unicode then .ok (ofSet (dotSet f), f) else fail .encoding span
  | .sight _ s => .ok (Pattern.place (s.place f), f)
  | .property span name => fail (propertyFault f name) span
  | .letter span set negated => (letterMeaning f span set negated).map (ofSet ·, f)
  | .bracket span negated inside => do
      let s ← (← inside.addTo f .empty).whole f span negated
      return (ofSet s.set, f)
  | .times _ inside least most => do
      let (p, f) ← inside.meaning f
      return (p.repeated least most, f)
  | .group _ remembered letters inside => do
      let (p, _) ← inside.meaning (f.switchAll letters)
      return (if remembered then Pattern.group p else p, f)
  | .alt _ branches => do
      let (ps, f) ← meanings f branches
      return (choice ps, f)
  | .seq _ items => do
      let (ps, f) ← meanings f items
      return (concat ps, f)

/-- The patterns that are written one after the other, and the flags after them. -/
def meanings (f : Flags) : List Tree → Read (List Pattern × Flags)
  | [] => .ok ([], f)
  | t :: ts => do
      let (p, f) ← t.meaning f
      let (ps, f) ← meanings f ts
      return (p :: ps, f)

end

end Pattern

end Text

end Conform

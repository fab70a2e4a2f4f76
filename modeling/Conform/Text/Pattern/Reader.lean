/-
**Reading patterns.**

The text of a pattern is read from left to right.  What is open is kept on a stack: the groups that
are not closed yet, each with the branches and the items that were read outside it, and likewise
the brackets.

Main definitions:

* `Pattern.readEscape`, `Pattern.readClass` — what a backslash and a bracket begin;
* `Pattern.Reading`, `Pattern.step` — what was read so far, and the effect of the next item;
* `Pattern.readTree` — **the tree that a text is**.
-/

import Conform.Text.Cut
import Conform.Text.Hex
import Conform.Text.Letter
import Conform.Text.Pattern.Cursor
import Conform.Text.Pattern.Tree

set_option relaxedAutoImplicit false
set_option autoImplicit false

namespace Conform

namespace Text

namespace Pattern

/-! ### Escapes -/

/-- **What a backslash stands for, with what follows it.** -/
inductive Escaped
  | char (w : Written)
  | sight (span : Span) (s : Sight)
  | property (span : Span) (name : Option (List Char))
  | letter (span : Span) (set : CharSet) (negated : Bool)

def Escaped.span : Escaped → Span
  | char w => w.span
  | sight span _ | property span _ | letter span _ _ => span

def Escaped.tree : Escaped → Tree
  | char w => .char w
  | sight span s => .sight span s
  | property span name => .property span name
  | letter span set negated => .letter span set negated

def hexChar (digits : List Char) (span : Span) : Read Char :=
  let n := hexValue digits
  if n.isValidChar then .ok (Char.ofNat n) else fail .hexNoCharacter span

/-- The hexadecimal digits in braces, last digit first, at most `n` more of them.  `brace` is the
place of the opening brace. -/
def readBraceDigits (brace : Cursor) : Nat → List Char → Cursor → Read (List Char × Cursor)
  | 0, digits, c => .ok (digits, c)
  | n + 1, digits, c =>
      match c.peek? with
      | none => fail .escapeEnd (brace.upTo c)
      | some d =>
          if d = '\x7d' then .ok (digits, c)
          else if isHexDigit d then readBraceDigits brace n (d :: digits) c.onward
          else fail .hexDigit c.here

/-- The character that a number in braces is; `first` is the place of the backslash. -/
def readHexBraces (first c : Cursor) : Read (Written × Cursor) := do
  let (digits, stop) ← readBraceDigits c (c.rest.length + 1) [] c.onward
  let after := stop.onward
  if digits.isEmpty then fail .hexEmpty (c.upTo after)
  else
    let char ← hexChar digits.reverse (c.next.upTo stop)
    return (⟨first.upTo after, char, false⟩, after)

def readDigits : Nat → List Char → Cursor → Read (List Char × Cursor)
  | 0, digits, c => .ok (digits, c)
  | n + 1, digits, c =>
      match c.peek? with
      | none => fail .escapeEnd (.empty c.spot)
      | some d =>
          if isHexDigit d then readDigits n (d :: digits) c.onward else fail .hexDigit c.here

/-- A character given by a hexadecimal number: in braces, or of exactly `width` digits.  `first` is
the place of the backslash. -/
def readHex (width : Nat) (first c : Cursor) : Read (Written × Cursor) := do
  let c := c.onward
  if c.isAtEnd then fail .escapeEnd (.empty c.spot)
  else if c.sees '\x7b' then readHexBraces first c
  else
    let (digits, stop) ← readDigits width [] c
    let char ← hexChar digits.reverse (c.upTo stop)
    return (⟨first.upTo stop, char, width == 2⟩, stop)

def readName : Nat → List Char → Cursor → Read (List Char × Cursor)
  | 0, name, c => .ok (name, c)
  | n + 1, name, c =>
      match c.peek? with
      | none => fail .escapeEnd (.empty c.spot)
      | some d => if d = '\x7d' then .ok (name, c.next) else readName n (d :: name) c.onward

def propertyName? (name : List Char) : Option (List Char) :=
  if name.contains ':' ∨ name.contains '=' then none else some name

def readProperty (first c : Cursor) : Read (Escaped × Cursor) := do
  let c := c.onward
  match c.peek? with
  | none => fail .escapeEnd (.empty c.spot)
  | some d =>
      if d = '\x7b' then
        let (name, stop) ← readName (c.rest.length + 1) [] c.onward
        return (.property (first.upTo stop) (propertyName? name.reverse), stop)
      else if d = '\\' then fail .propertyInvalid c.here
      else
        let stop := c.onward
        return (.property (first.upTo stop) (some [d]), stop)

def letterSet? (d : Char) : Option CharSet :=
  if d = 'd' ∨ d = 'D' then some .digits
  else if d = 's' ∨ d = 'S' then some .spaces
  else if d = 'w' ∨ d = 'W' then some .words
  else none

def letterChar? (d : Char) : Option Char :=
  if d = 'a' then some '\x07'
  else if d = 'f' then some '\x0c'
  else if d = 't' then some '\t'
  else if d = 'n' then some '\n'
  else if d = 'r' then some '\r'
  else if d = 'v' then some '\x0b'
  else none

def sight? (d : Char) : Option Sight :=
  if d = 'A' then some .textStart
  else if d = 'z' then some .textEnd
  else if d = 'b' then some (.word .some)
  else if d = 'B' then some (.word .none)
  else if d = '<' then some (.word .start)
  else if d = '>' then some (.word .finish)
  else none

def edge? (name : List Char) : Option WordEdge :=
  let name := String.ofList name
  if name = "start" then some .start
  else if name = "end" then some .finish
  else if name = "start-half" then some .startHalf
  else if name = "end-half" then some .finishHalf
  else none

def isEdgeChar (c : Char) : Bool := c.isAlpha || c == '-'

def readEdgeName : Nat → List Char → Cursor → List Char × Cursor
  | 0, name, c => (name, c)
  | n + 1, name, c =>
      match c.peek? with
      | some d => if isEdgeChar d then readEdgeName n (d :: name) c.onward else (name, c)
      | none => (name, c)

/-- The edge of words that is named in braces after `\b`, if a name begins there and not a number of
repetitions.  `first` is the place of the backslash. -/
def readEdge (first c : Cursor) : Read (Option (WordEdge × Cursor)) :=
  let inside := c.onward
  match inside.peek? with
  | none => fail .boundaryUnclosed (first.upTo inside)
  | some d =>
      if !isEdgeChar d then .ok none
      else
        let (name, stop) := readEdgeName inside.rest.length [] inside
        if !stop.sees '\x7d' then fail .boundaryInvalid (c.upTo stop)
        else match edge? name.reverse with
          | some e => .ok (some (e, stop.next))
          | none => fail .boundaryUnknown (inside.upTo stop)

/-- What `\b` stands for, which may have a name after it. -/
def readWordEdge (first stop : Cursor) : Read (Escaped × Cursor) := do
  if stop.sees '\x7b' then
    match ← readEdge first stop with
    | some (e, stop) => return (.sight (first.upTo stop) (.word e), stop)
    | none => return (.sight (first.upTo stop) (.word .some), stop)
  else return (.sight (first.upTo stop) (.word .some), stop)

/-- Whether a backslash before a character makes it stand for itself. -/
def isLiteralAfterBackslash (d : Char) : Bool :=
  d.toNat ≤ 0x7F && !d.isAlphanum && d != '<' && d != '>'

/-- **What a backslash stands for**, with what follows it. -/
def readEscape (first : Cursor) : Read (Escaped × Cursor) := do
  let c := first.next
  match c.peek? with
  | none => fail .escapeEnd (first.upTo c)
  | some d =>
      let stop := c.next
      let span := first.upTo stop
      if d.isDigit then fail .backReference span
      else if d = 'x' then (readHex 2 first c).map fun (w, stop) => (.char w, stop)
      else if d = 'u' then (readHex 4 first c).map fun (w, stop) => (.char w, stop)
      else if d = 'U' then (readHex 8 first c).map fun (w, stop) => (.char w, stop)
      else if d = 'p' ∨ d = 'P' then readProperty first c
      else if isLiteralAfterBackslash d then return (.char ⟨span, d, false⟩, stop)
      else if d = 'b' then readWordEdge first stop
      else match letterSet? d, letterChar? d, sight? d with
        | some s, _, _ => return (.letter span s d.isUpper, stop)
        | _, some e, _ => return (.char ⟨span, e, false⟩, stop)
        | _, _, some s => return (.sight span s, stop)
        | none, none, none => fail .escapeUnknown span

/-! ### Brackets -/

/-- The parts of a set that were read, last one first, and where they begin. -/
structure Parts where
  first : Spot
  items : List ClassTree := []

def Parts.add (p : Parts) (t : ClassTree) : Parts :=
  ⟨if p.items.isEmpty then t.span.first else p.first, t :: p.items⟩

def Parts.tree (p : Parts) : ClassTree :=
  match p.items with
  | [] => .nothing (.empty p.first)
  | [t] => t
  | t :: ts => .union ⟨p.first, t.span.last⟩ (t :: ts).reverse

/-- **A bracket that is not closed yet**: the part of the text that opens it, whether it is negated,
the operations whose right side is being read, and the parts outside it. -/
structure OpenBracket where
  opening : Span
  negated : Bool
  operations : Option (SetOperator × ClassTree) := none
  outside : Parts

/-- The left side of the operations, with the parts on the right. -/
def OpenBracket.inside (b : OpenBracket) (p : Parts) : ClassTree :=
  match b.operations with
  | some (op, left) => .operation ⟨left.span.first, p.tree.span.last⟩ op left p.tree
  | none => p.tree

/-- Minus signs at the beginning of a set, which stand for themselves; at most `n` of them. -/
def readMinuses (opening : Spot) : Nat → Parts → Cursor → Read (Parts × Cursor)
  | 0, p, c => .ok (p, c)
  | n + 1, p, c =>
      if c.sees '-' then
        let p := p.add (.char ⟨c.here, '-', false⟩)
        if c.onward.isAtEnd then fail .classUnclosed (.empty opening)
        else readMinuses opening n p c.onward
      else .ok (p, c)

/-- **What opens a set**: the bracket, a negation, and the signs after it that stand for themselves
there. -/
def openBracket (outside : Parts) (first : Cursor) : Read (OpenBracket × Parts × Cursor) := do
  let c := first.onward
  if c.isAtEnd then fail .classUnclosed (first.upTo c)
  let negated := c.sees '^'
  let c := if negated then c.onward else c
  if c.isAtEnd then fail .classUnclosed (first.upTo c)
  let (p, c) ← readMinuses first.spot c.rest.length ⟨c.spot, []⟩ c
  if p.items.isEmpty && c.sees ']' then
    let p := p.add (.char ⟨c.here, ']', false⟩)
    let c := c.onward
    if c.isAtEnd then fail .classUnclosed (first.upTo c)
    return (⟨first.upTo c, negated, none, outside⟩, p, c)
  else return (⟨first.upTo c, negated, none, outside⟩, p, c)

def namedSet? (first : Cursor) : Option (ClassTree × Cursor) :=
  (first.past? "[:").bind fun c =>
    let negated := c.sees '^'
    let c := if negated then c.next else c
    let name := before ':' c.rest
    ((c.skip name.length).past? ":]").bind fun stop =>
      (CharSet.named? (String.ofList name)).map fun s => (.named (first.upTo stop) s negated, stop)

def readClassItem (c : Cursor) : Read (Escaped × Cursor) :=
  match c.peek? with
  | some '\\' => readEscape c
  | some d => .ok (.char ⟨c.here, d, false⟩, c.next)
  | none => .ok (.char ⟨c.here, ' ', false⟩, c)

def Escaped.part : Escaped → Read ClassTree
  | char w => .ok (.char w)
  | property span name => .ok (.property span name)
  | letter span set negated => .ok (.letter span set negated)
  | sight span _ => fail .classEscape span

def Escaped.bound : Escaped → Read Written
  | char w => .ok w
  | e => fail .classRangeBound e.span

/-- **A part of a set**: a character, a range, or an escape.  `unclosed` is the part of the text
that opened the set. -/
def readPart (unclosed : Span) (c : Cursor) : Read (ClassTree × Cursor) := do
  let (e, stop) ← readClassItem c
  let stop := stop.skipGap
  if stop.isAtEnd then fail .classUnclosed unclosed
  else if !stop.sees '-' || stop.second? == some ']' || stop.second? == some '-' then
    return (← e.part, stop)
  else
    let c := stop.onward
    if c.isAtEnd then fail .classUnclosed unclosed
    let (f, stop) ← readClassItem c
    let span : Span := ⟨e.span.first, f.span.last⟩
    let first ← e.bound
    let last ← f.bound
    if last.char < first.char then fail .classRangeOrder span
    else return (.range span first last, stop)

def operator? (c : Cursor) : Option (SetOperator × Cursor) :=
  ((c.past? "&&").map (SetOperator.inter, ·)).or
    (((c.past? "--").map (SetOperator.diff, ·)).or ((c.past? "~~").map (SetOperator.xor, ·)))

/-- The rest of a set, with at most `n` more steps.  `b` is the innermost open bracket, and `outer`
are those around it. -/
def readClassFrom : Nat → OpenBracket → List OpenBracket → Parts → Cursor → Read (Tree × Cursor)
  | 0, b, _, _, _ => fail .classUnclosed b.opening
  | n + 1, b, outer, p, c =>
      let c := c.skipGap
      match c.peek? with
      | none => fail .classUnclosed b.opening
      | some '[' =>
          match namedSet? c with
          | some (t, stop) => readClassFrom n b outer (p.add t) stop
          | none =>
              (openBracket p c).bind fun (b', p, stop) => readClassFrom n b' (b :: outer) p stop
      | some ']' =>
          let span : Span := ⟨b.opening.first, c.next.spot⟩
          match outer with
          | [] => .ok (.bracket span b.negated (b.inside p), c.next)
          | b' :: outer =>
              readClassFrom n b' outer (b.outside.add (.bracket span b.negated (b.inside p))) c.next
      | some _ =>
          match operator? c with
          | some (op, stop) =>
              readClassFrom n { b with operations := some (op, b.inside p) } outer ⟨stop.spot, []⟩
                stop
          | none =>
              (readPart b.opening c).bind fun (t, stop) => readClassFrom n b outer (p.add t) stop

/-- **The set that a bracket begins.** -/
def readClass (c : Cursor) : Read (Tree × Cursor) :=
  (openBracket ⟨c.spot, []⟩ c).bind fun (b, p, stop) =>
    readClassFrom (c.rest.length + 1) b [] p stop

/-! ### Counts -/

def readCountDigits : Nat → List Char → Cursor → List Char × Cursor
  | 0, digits, c => (digits, c)
  | n + 1, digits, c =>
      match c.peek? with
      | some d => if d.isDigit then readCountDigits n (d :: digits) c.onward else (digits, c)
      | none => (digits, c)

def skipBlanks : Nat → Cursor → Cursor
  | 0, c => c
  | n + 1, c => if c.peek?.any isBlank then skipBlanks n c.onward else c

def countLimit : Nat := 0xFFFFFFFF

/-- A number of repetitions, with the place after it also if it is none. -/
def readCount (c : Cursor) : Read Nat × Cursor :=
  let c := c.skipWhile isBlank
  let (digits, stop) := readCountDigits c.rest.length [] c
  let after := skipBlanks stop.rest.length stop
  if digits.isEmpty then (fail .countEmpty (c.upTo stop), after)
  else
    let n := digits.reverse.foldl (fun n d => 10 * n + (d.toNat - '0'.toNat)) 0
    (if n ≤ countLimit then .ok n else fail .countInvalid (c.upTo stop), after)

/-- The least and the greatest number of repetitions in braces, up to the closing one. -/
def readCounts (first : Cursor) : Read ((Nat × Option Nat) × Cursor) := do
  let c := first.onward
  if c.isAtEnd then fail .countUnclosed (first.upTo c)
  let (least, stop) := readCount c
  if stop.isAtEnd then fail .countUnclosed (first.upTo stop)
  else if stop.sees ',' then
    let c := stop.onward
    if c.isAtEnd then fail .countUnclosed (first.upTo c)
    else if c.sees '\x7d' then return ((← least, none), c)
    else
      let least ← least
      let (most, stop) := readCount c
      let most ← most
      return ((least, some most), stop)
  else
    let n ← least
    return ((n, some n), stop)

/-! ### Groups -/

/-- What is being read in a group, or outside of all groups: the items of the last branch and the
branches before it, all of them last one first, with the places where they begin. -/
structure Level where
  first : Spot
  items : List Tree := []
  branches : Option (Spot × List Tree) := none

namespace Level

def add (l : Level) (t : Tree) : Level := { l with items := t :: l.items }

def last (l : Level) (stop : Spot) : Tree :=
  match l.items with
  | [] => .empty ⟨l.first, stop⟩
  | [t] => t
  | ts => .seq ⟨l.first, stop⟩ ts.reverse

def branch (l : Level) (bar after : Spot) : Level :=
  { first := after
    branches := some (match l.branches with
      | some (first, ts) => (first, l.last bar :: ts)
      | none => (l.first, [l.last bar])) }

def tree (l : Level) (stop : Spot) : Tree :=
  match l.branches with
  | some (first, ts) => .alt ⟨first, stop⟩ (l.last stop :: ts).reverse
  | none => l.last stop

end Level

/-- **A group that is not closed yet**: the parenthesis that begins it, what it does, and what was
read outside it, with whether blanks stand for nothing there. -/
structure OpenGroup where
  opening : Span
  remembered : Bool
  letters : FlagLetters
  outside : Level
  spaced : Bool

/-- **What was read of a pattern so far.** -/
structure Reading where
  inside : Level
  groups : List OpenGroup := []
  names : List (String × Span) := []

def flagLetters : List Char := ['i', 'm', 's', 'U', 'u', 'R', 'x']

/-- The letters of flags that come next, up to a colon or a parenthesis, at most `n` of them.
`seen` are the letters that were read, last one first, with their places, and `on` tells whether
flags are switched on. -/
def readFlags : Nat → Bool → List (Char × Span) → FlagLetters → Cursor →
    Read (FlagLetters × Cursor)
  | 0, _, _, letters, c => .ok (letters, c)
  | n + 1, on, seen, letters, c =>
      match c.peek? with
      | none => fail .flagsUnfinished (.empty c.spot)
      | some d =>
          if d = ':' ∨ d = ')' then
            match seen with
            | ('-', span) :: _ => fail .negationDangling span
            | _ => .ok (letters.reverse, c)
          else if d ≠ '-' ∧ !flagLetters.contains d then fail .flagUnknown c.here
          else match seen.lookup d with
            | some earlier =>
                .error ⟨if d = '-' then .negationRepeated else .flagRepeated, c.here, some earlier⟩
            | none =>
                if d = '-' then readFlags n false (('-', c.here) :: seen) letters c.next
                else readFlags n on ((d, c.here) :: seen) ((d, on) :: letters) c.next

def isGroupNameChar (first : Bool) (c : Char) : Bool :=
  if first then c == '_' || isLetter c
  else c == '_' || c == '.' || c == '[' || c == ']' || isAlphanumeric c

/-- The place after the name of a group, of at most `n` more characters. -/
def readNameChars (first : Spot) : Nat → Cursor → Read Cursor
  | 0, c => .ok c
  | n + 1, c =>
      match c.peek? with
      | none => .ok c
      | some d =>
          if d = '>' then .ok c
          else if isGroupNameChar (c.spot == first) d then readNameChars first n c.next
          else fail .nameCharacter c.here

/-- The name of a group, up to the bracket that ends it. -/
def readGroupName (names : List (String × Span)) (c : Cursor) :
    Read ((String × Span) × Cursor) := do
  let stop ← readNameChars c.spot c.rest.length c
  let name := String.ofList (c.rest.take (c.rest.length - stop.rest.length))
  if stop.isAtEnd then fail .nameUnclosed (.empty stop.spot)
  else if name.isEmpty then fail .nameEmpty (.empty c.spot)
  else match names.lookup name with
    | some earlier => .error ⟨.nameRepeated, c.upTo stop, some earlier⟩
    | none => return ((name, c.upTo stop), stop.next)

/-- Whether blanks stand for nothing after some letters of flags. -/
def spacedAfter (letters : FlagLetters) (spaced : Bool) : Bool := (letters.lookup 'x').getD spaced

namespace Reading

def add (r : Reading) (t : Tree) : Reading := { r with inside := r.inside.add t }

def enter (r : Reading) (opening : Span) (remembered : Bool) (letters : FlagLetters) (c : Cursor) :
    Reading × Cursor :=
  ({ r with
      inside := { first := c.spot }
      groups := ⟨opening, remembered, letters, r.inside, c.spaced⟩ :: r.groups },
    { c with spaced := spacedAfter letters c.spaced })

def last (r : Reading) (c : Cursor) : Read (Tree × Reading) :=
  match r.inside.items with
  | [] | .empty _ :: _ | .flags .. :: _ => fail .nothingToRepeat (.empty c.spot)
  | t :: ts => .ok (t, { r with inside := { r.inside with items := ts } })

end Reading

/-- What a question mark after an opening parenthesis begins: a group, or a change of flags. -/
def readFlagGroup (r : Reading) (first inner c : Cursor) : Read (Reading × Cursor) := do
  if c.isAtEnd then fail .groupUnclosed first.here
  let (letters, stop) ← readFlags (c.rest.length + 1) true [] [] c
  if stop.sees ')' then
    if stop.spot = c.spot then fail .nothingToRepeat (.empty inner.spot)
    else
      let after := stop.next
      return (r.add (.flags (first.upTo after) letters),
        { after with spaced := spacedAfter letters after.spaced })
  else return r.enter first.here false letters stop.next

def readGroup (r : Reading) (first : Cursor) : Read (Reading × Cursor) := do
  let c := first.onward
  let ahead := (c.past? "?=").or ((c.past? "?!").or ((c.past? "?<=").or (c.past? "?<!")))
  match ahead, (c.past? "?P<").or (c.past? "?<"), c.past? "?" with
  | some stop, _, _ => fail .lookAround (first.upTo stop)
  | none, some inside, _ =>
      let (name, stop) ← readGroupName r.names inside
      return { r with names := name :: r.names }.enter first.here true [] stop
  | none, none, some inside => readFlagGroup r first c inside
  | none, none, none => return r.enter first.here true [] c

def closeGroup (r : Reading) (c : Cursor) : Read (Reading × Cursor) :=
  match r.groups with
  | [] => fail .groupUnopened c.here
  | g :: groups =>
      let span : Span := ⟨g.opening.first, c.next.spot⟩
      let tree := Tree.group span g.remembered g.letters (r.inside.tree c.spot)
      .ok ({ r with inside := g.outside.add tree, groups := groups },
        { c.next with spaced := g.spaced })

/-! ### Patterns -/

def readItem (c : Cursor) : Read (Tree × Cursor) :=
  match c.peek? with
  | some '\\' => (readEscape c).map fun (e, stop) => (e.tree, stop)
  | some '.' => .ok (.dot c.here, c.next)
  | some '^' => .ok (.sight c.here .lineStart, c.next)
  | some '$' => .ok (.sight c.here .lineEnd, c.next)
  | some d => .ok (.char ⟨c.here, d, false⟩, c.next)
  | none => .ok (.empty c.here, c)

/-- The effect of a sign of repetition, and of the question mark that may follow it. -/
def repeatSign (r : Reading) (c : Cursor) (least : Nat) (most : Option Nat) :
    Read (Reading × Cursor) := do
  let (t, r) ← r.last c
  let stop := if c.next.sees '?' then c.next.next else c.next
  return (r.add (.times ⟨t.span.first, stop.spot⟩ t least most), stop)

def repeatCount (r : Reading) (c : Cursor) : Read (Reading × Cursor) := do
  let (t, r) ← r.last c
  let ((least, most), stop) ← readCounts c
  if !stop.sees '\x7d' then fail .countUnclosed (c.upTo stop)
  let stop := stop.onward
  let stop := if stop.sees '?' then stop.next else stop
  if most.any (· < least) then fail .countOrder (c.upTo stop)
  else return (r.add (.times ⟨t.span.first, stop.spot⟩ t least most), stop)

/-- **The effect of the next item.** -/
def step (r : Reading) (c : Cursor) : Read (Reading × Cursor) :=
  match c.peek? with
  | some '(' => readGroup r c
  | some ')' => closeGroup r c
  | some '|' => .ok ({ r with inside := r.inside.branch c.spot c.next.spot }, c.next)
  | some '[' => (readClass c).map fun (t, stop) => (r.add t, stop)
  | some '?' => repeatSign r c 0 (some 1)
  | some '*' => repeatSign r c 0 none
  | some '+' => repeatSign r c 1 none
  | some '\x7b' => repeatCount r c
  | _ => (readItem c).map fun (t, stop) => (r.add t, stop)

/-- The rest of a pattern, of at most `n` items. -/
def readFrom : Nat → Reading → Cursor → Read Tree
  | 0, r, c => finish r c
  | n + 1, r, c =>
      let c := c.skipGap
      if c.isAtEnd then finish r c
      else (step r c).bind fun (r, c) => readFrom n r c
where
  finish (r : Reading) (c : Cursor) : Read Tree :=
    match r.groups with
    | [] => .ok (r.inside.tree c.spot)
    | g :: _ => fail .groupUnclosed g.opening

/-- **The tree that a text is.**  It is not nested too deep. -/
def readTree (text : String) : Read Tree :=
  (readFrom (text.length + 1) ⟨{ first := {} }, [], []⟩ (.ofText text)).bind fun t =>
    match t.depthFault? 0 with
    | some m => .error m
    | none => .ok t

end Pattern

end Text

end Conform

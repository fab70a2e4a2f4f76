/-
**The grammar of rules.**

A rule is written in seven parts with bars between them:

`label|kind|min|max|default|index|pattern`

The pattern is last and may hold bars of its own.  The word `null` stands for an absent bound,
default or pattern.  Label, kind, bounds and the index flag are trimmed, a text default and the
pattern are kept as they are written.
-/

import Conform.Numeral.Decimal
import Conform.Rule.Fault
import Conform.Text.Blank

set_option relaxedAutoImplicit false
set_option autoImplicit false

namespace Conform

namespace Rule

def arity : Nat := 7

/-- The word for an absent bound, default or pattern. -/
def absentWord : List Char := ['n', 'u', 'l', 'l']

def readKind (part : List Char) : Except Fault Kind :=
  let token := String.ofList (Text.trim part)
  match Kind.ofName? token with
  | some kind => .ok kind
  | none => .error (.unknownKind token)

def readBound (which : Bound) (part : List Char) : Except Fault (Option Binary64) :=
  let token := Text.trim part
  if token = absentWord then .ok none
  else match Binary64.read? token with
    | some x => .ok (some x)
    | none => .error (.bound which (String.ofList token))

/-- The default that a part gives a column of a kind.  Only numbers are read; for any other kind
the part is the default, blanks included. -/
def readDefault (kind : Kind) (part : List Char) : Except Fault Default :=
  let token := Text.trim part
  if token = absentWord then .ok .absent
  else if kind = .number then
    match Numeral.int64? token with
    | some n => .ok (.number n)
    | none =>
        if (Binary64.read? token).isSome then .error (.fractionalDefault (String.ofList token))
        else .error (.numberDefault (String.ofList token))
  else .ok (.text (String.ofList part))

def readFlag (part : List Char) : Except Fault Bool :=
  let token := Text.trim part
  if token = ['0'] then .ok false
  else if token = ['1'] then .ok true
  else .error (.indexFlag (String.ofList token))

/-- The pattern; here the absent word is not trimmed. -/
def readPattern (part : List Char) : Option String :=
  if part = absentWord then none else some (String.ofList part)

def ofParts : List (List Char) → Except Fault Rule
  | [label, kind, lower, upper, default, flag, pattern] => do
      let kind ← readKind kind
      let lower ← readBound .lower lower
      let upper ← readBound .upper upper
      let default ← readDefault kind default
      let indexed ← readFlag flag
      return ⟨String.ofList (Text.trim label), kind, lower, upper, default, indexed,
        readPattern pattern⟩
  | parts => .error (.parts parts.length)

/-- **The rule that a text is**, or the first fault from left to right. -/
def parse (raw : String) : Except Fault Rule :=
  ofParts (Text.splitUpTo '|' arity raw.toList)

end Rule

end Conform

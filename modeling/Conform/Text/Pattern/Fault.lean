/-
**Why a text is no pattern, and how that is told.**

A fault comes with the part of the text that it is about.  The message shows the text with marks
under that part; a text of several lines is shown with the numbers of its lines.

Main definitions:

* `Pattern.Spot`, `Pattern.Span` — places in a text, and parts of it;
* `Pattern.Fault` — what is wrong;
* `Pattern.Misreading` — a fault and where it is;
* `Misreading.message` — **the message**, in several lines.
-/

import Conform.Text.Cut

set_option relaxedAutoImplicit false
set_option autoImplicit false

namespace Conform

namespace Text

namespace Pattern

/-! ### Places and parts -/

/-- **A place in a text**: how many characters are before it, and its line and column, which begin
at one. -/
structure Spot where
  offset : Nat := 0
  line : Nat := 1
  column : Nat := 1
  deriving DecidableEq, Repr

def Spot.past (s : Spot) (c : Char) : Spot :=
  if c = '\n' then ⟨s.offset + 1, s.line + 1, 1⟩ else ⟨s.offset + 1, s.line, s.column + 1⟩

/-- **A part of a text**, from one place to another. -/
structure Span where
  first : Spot
  last : Spot
  deriving DecidableEq, Repr

def Span.empty (s : Spot) : Span := ⟨s, s⟩

/-! ### Faults -/

/-- **What is wrong with a pattern.** -/
inductive Fault
  | backReference
  | boundaryInvalid
  | boundaryUnclosed
  | boundaryUnknown
  | classEscape
  | classRangeOrder
  | classRangeBound
  | classUnclosed
  | countEmpty
  | countInvalid
  | countOrder
  | countUnclosed
  | hexEmpty
  | hexNoCharacter
  | hexDigit
  | escapeEnd
  | escapeUnknown
  | flagsUnfinished
  | flagRepeated
  | flagUnknown
  | negationDangling
  | negationRepeated
  | nameRepeated
  | nameEmpty
  | nameCharacter
  | nameUnclosed
  | groupUnclosed
  | groupUnopened
  | nothingToRepeat
  | lookAround
  | propertyInvalid
  /-- Groups and brackets are nested deeper than this. -/
  | tooDeep (limit : Nat)
  /-- A property of Unicode that is not known. -/
  | property
  | propertyValue
  /-- A class of Unicode that a letter stands for, and that is not known. -/
  | letterClass
  /-- Letter case of Unicode, which is not known. -/
  | letterCase
  /-- A character that is not ASCII stands where only bytes can. -/
  | unicode
  /-- The pattern may match a part of a character. -/
  | encoding
  deriving DecidableEq, Repr

def Fault.text : Fault → String
  | backReference => "backreferences are not supported"
  | boundaryInvalid =>
      "special word boundary assertion is either unclosed or contains an invalid character"
  | boundaryUnclosed =>
      "found either the beginning of a special word boundary or a bounded repetition " ++
        "on a \\b with an opening brace, but no closing brace"
  | boundaryUnknown =>
      "unrecognized special word boundary assertion, " ++
        "valid choices are: start, end, start-half or end-half"
  | classEscape => "invalid escape sequence found in character class"
  | classRangeOrder => "invalid character class range, the start must be <= the end"
  | classRangeBound => "invalid range boundary, must be a literal"
  | classUnclosed => "unclosed character class"
  | countEmpty => "repetition quantifier expects a valid decimal"
  | countInvalid => "decimal literal invalid"
  | countOrder => "invalid repetition count range, the start must be <= the end"
  | countUnclosed => "unclosed counted repetition"
  | hexEmpty => "hexadecimal literal empty"
  | hexNoCharacter => "hexadecimal literal is not a Unicode scalar value"
  | hexDigit => "invalid hexadecimal digit"
  | escapeEnd => "incomplete escape sequence, reached end of pattern prematurely"
  | escapeUnknown => "unrecognized escape sequence"
  | flagsUnfinished => "expected flag but got end of regex"
  | flagRepeated => "duplicate flag"
  | flagUnknown => "unrecognized flag"
  | negationDangling => "dangling flag negation operator"
  | negationRepeated => "flag negation operator repeated"
  | nameRepeated => "duplicate capture group name"
  | nameEmpty => "empty capture group name"
  | nameCharacter => "invalid capture group character"
  | nameUnclosed => "unclosed capture group name"
  | groupUnclosed => "unclosed group"
  | groupUnopened => "unopened group"
  | nothingToRepeat => "repetition operator missing expression"
  | lookAround => "look-around, including look-ahead and look-behind, is not supported"
  | propertyInvalid => "invalid Unicode character class"
  | tooDeep limit => s!"exceed the maximum number of nested parentheses/brackets ({limit})"
  | property => "Unicode property not found"
  | propertyValue => "Unicode property value not found"
  | letterClass =>
      "Unicode-aware Perl class not found (make sure the unicode-perl feature is enabled)"
  | letterCase =>
      "Unicode-aware case insensitivity matching is not available " ++
        "(make sure the unicode-case feature is enabled)"
  | unicode => "Unicode not allowed here"
  | encoding => "pattern can match invalid UTF-8"

/-- **A fault and the part of the text that it is about**, and perhaps an earlier part that it
repeats. -/
structure Misreading where
  fault : Fault
  span : Span
  earlier : Option Span := none
  deriving DecidableEq, Repr

namespace Misreading

/-! ### Messages -/

def spans (m : Misreading) : List Span := m.earlier.toList ++ [m.span]

/-- Marks under parts of a line, from a column on.  A part without characters has one mark. -/
def marksFrom : Nat → List Span → String
  | _, [] => ""
  | n, s :: spans =>
      let width := max 1 (s.last.column - s.first.column)
      "".pushn ' ' (s.first.column - n) ++ "".pushn '^' width ++
        marksFrom (max n s.first.column + width) spans

def lines (text : String) : List (List Char) :=
  let parts := text.toList.splitOn '\n'
  let parts := if parts.getLast? = some [] then parts.dropLast else parts
  let ended := parts.length - if text.toList.getLast? = some '\n' then 0 else 1
  parts.zipIdx.map fun (line, i) =>
    if i < ended ∧ line.getLast? = some '\r' then line.dropLast else line

def marked (spans : List Span) (indent : String) (line : List Char) : String :=
  let marks := if spans.isEmpty then ""
    else "".pushn ' ' indent.length ++ marksFrom 1 spans ++ "\n"
  indent ++ String.ofList line ++ "\n" ++ marks

def divider : String := "".pushn '~' 79 ++ "\n"

def note (s : Span) : String :=
  s!"on line {s.first.line} (column {s.first.column}) " ++
    s!"through line {s.last.line} (column {s.last.column - 1})\n"

def numbered (m : Misreading) (text : String) : String :=
  let ls := lines text
  let count := ls.length + if text.toList.getLast? = some '\n' then 1 else 0
  let width := (toString count).length
  let single := m.spans.filter fun s => s.first.line = s.last.line
  String.join (ls.zipIdx.map fun (line, i) =>
    let number := toString (i + 1)
    marked (single.filter (·.first.line = i + 1))
      ("".pushn ' ' (width - number.length) ++ number ++ ": ") line)

/-- **The message about a text that is no pattern.** -/
def message (m : Misreading) (text : String) : String :=
  let shown :=
    if text.toList.contains '\n' then
      divider ++ m.numbered text ++ divider ++
        String.join ((m.spans.filter fun s => s.first.line ≠ s.last.line).map note)
    else marked m.spans "    " text.toList
  s!"regex parse error:\n{shown}error: {m.fault.text}"

end Misreading

end Pattern

end Text

end Conform

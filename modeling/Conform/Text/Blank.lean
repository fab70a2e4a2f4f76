/-
**Blanks: trimming, words, and the collapsed form of a text.**

A blank is a character with the Unicode property `White_Space`: twenty-five code points, six of
them ASCII.  Everything that is trimmed or split at blanks in this library (rule tokens, type
names, switches, logged statements) uses this one class.
-/

set_option relaxedAutoImplicit false
set_option autoImplicit false

namespace Conform

namespace Text

/-! ### The class -/

/-- **The characters with the Unicode property `White_Space`.** -/
def isBlank (c : Char) : Bool :=
  let n := c.toNat
  (0x9 ≤ n && n ≤ 0xD) || n == 0x20 || n == 0x85 || n == 0xA0 || n == 0x1680 ||
    (0x2000 ≤ n && n ≤ 0x200A) || n == 0x2028 || n == 0x2029 || n == 0x202F || n == 0x205F ||
    n == 0x3000

/-! ### Trimming -/

def trimStart (s : List Char) : List Char := s.dropWhile isBlank

def trimEnd (s : List Char) : List Char := (s.reverse.dropWhile isBlank).reverse

/-- **The text without the blanks at its ends.** -/
def trim (s : List Char) : List Char := trimEnd (trimStart s)

/-- A text that neither begins nor ends with a blank is left as it is. -/
theorem trim_eq_self {s : List Char} (hfirst : ∀ c, s.head? = some c → isBlank c = false)
    (hlast : ∀ c, s.getLast? = some c → isBlank c = false) : trim s = s := by
  have hs : trimStart s = s := by
    cases s with
    | nil => rfl
    | cons c r => simp [trimStart, hfirst c rfl]
  rw [trim, hs, trimEnd]
  cases hr : s.reverse with
  | nil => simp_all
  | cons c r =>
      have hc : s.getLast? = some c := by
        rw [← List.head?_reverse, hr]; rfl
      have hb : isBlank c = false := hlast c hc
      rw [List.dropWhile_cons, hb]
      simp [← hr]

def strip (s : String) : String := String.ofList (trim s.toList)

/-! ### Words -/

/-- The blank-free runs of a text, given the run that is being read, last character first. -/
def wordsFrom : List Char → List Char → List (List Char)
  | run, [] => if run.isEmpty then [] else [run.reverse]
  | run, c :: r =>
      if isBlank c then
        if run.isEmpty then wordsFrom [] r else run.reverse :: wordsFrom [] r
      else wordsFrom (c :: run) r

/-- **The maximal blank-free runs of a text**, in order. -/
def words (s : List Char) : List (List Char) := wordsFrom [] s

/-- **The collapsed form of a text**: its words joined by single spaces. -/
def collapse (s : String) : String :=
  String.ofList ([' '].intercalate (words s.toList))

end Text

end Conform

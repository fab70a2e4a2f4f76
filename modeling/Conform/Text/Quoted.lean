/-
**Quoting by doubling.**

Between two quotes, a quote is written twice and everything else once.
-/

set_option relaxedAutoImplicit false
set_option autoImplicit false

namespace Conform

namespace Text

/-- **The text with every quote doubled.** -/
def double (quote : Char) (s : List Char) : List Char :=
  s.flatMap fun c => if c = quote then [c, c] else [c]

@[simp] theorem double_nil (quote : Char) : double quote [] = [] := rfl

@[simp] theorem double_cons (quote c : Char) (s : List Char) :
    double quote (c :: s) = (if c = quote then [c, c] else [c]) ++ double quote s := rfl

/-- **The text up to its closing quote**, where two quotes stand for one.  A text without closing
quote is read to its end. -/
def undouble (quote : Char) : List Char → List Char
  | [] => []
  | [c] => if c = quote then [] else [c]
  | c :: d :: s =>
      if c = quote then
        if d = quote then quote :: undouble quote s else []
      else c :: undouble quote (d :: s)

theorem undouble_cons_of_ne {quote c : Char} (s : List Char) (h : c ≠ quote) :
    undouble quote (c :: s) = c :: undouble quote s := by
  cases s <;> simp [undouble, h]

/-- The reading stops at a quote that no second quote follows. -/
theorem undouble_quote {quote : Char} {rest : List Char} (h : rest.head? ≠ some quote) :
    undouble quote (quote :: rest) = [] := by
  cases rest with
  | nil => simp [undouble]
  | cons d r => simp_all [undouble]

/-- **What is written between quotes is read back.** -/
theorem undouble_double {quote : Char} (s : List Char) {rest : List Char}
    (h : rest.head? ≠ some quote) : undouble quote (double quote s ++ quote :: rest) = s := by
  induction s with
  | nil => exact undouble_quote h
  | cons c s ih =>
      by_cases hc : c = quote
      · subst hc; simp [undouble, ih]
      · simp [hc, undouble_cons_of_ne _ hc, ih]

end Text

end Conform

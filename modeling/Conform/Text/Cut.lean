/-
**Cutting texts at separators, and ASCII letter case.**
-/

import Conform.Text.Blank

set_option relaxedAutoImplicit false
set_option autoImplicit false

namespace Conform

namespace Text

/-! ### One cut -/

/-- The part of a text before the first `sep`, or all of it. -/
def before (sep : Char) (s : List Char) : List Char := s.takeWhile (· != sep)

theorem before_eq_self {sep : Char} {s : List Char} (h : sep ∉ s) : before sep s = s := by
  induction s with
  | nil => rfl
  | cons c r ih =>
      have hc : c ≠ sep := fun e => h (e ▸ List.mem_cons_self ..)
      have hr : sep ∉ r := fun hm => h (List.mem_cons_of_mem _ hm)
      rw [before, List.takeWhile_cons, if_pos (by simpa using hc)]
      exact congrArg (c :: ·) (ih hr)

/-- **The parts of a text before and after the first `sep`**, if it occurs. -/
def cut (sep : Char) (s : List Char) : Option (List Char × List Char) :=
  match s.dropWhile (· != sep) with
  | [] => none
  | _ :: r => some (before sep s, r)

@[simp] theorem cut_nil (sep : Char) : cut sep [] = none := rfl

theorem cut_cons (sep c : Char) (s : List Char) :
    cut sep (c :: s) =
      if c = sep then some ([], s) else (cut sep s).map fun p => (c :: p.1, p.2) := by
  by_cases h : c = sep
  · simp [cut, before, h]
  · have hne : (c != sep) = true := by simpa using h
    rw [if_neg h]
    simp only [cut, before, List.dropWhile_cons, List.takeWhile_cons, hne, if_true]
    cases s.dropWhile (· != sep) <;> rfl

theorem cut_eq_none_iff {sep : Char} {s : List Char} : cut sep s = none ↔ sep ∉ s := by
  induction s with
  | nil => simp
  | cons c r ih =>
      rw [cut_cons]
      by_cases h : c = sep
      · simp [h]
      · simp [h, ih, Ne.symm h]

/-- **The cut is the only way to write the text around its first separator.** -/
theorem cut_eq_some_iff {sep : Char} {s a b : List Char} :
    cut sep s = some (a, b) ↔ sep ∉ a ∧ s = a ++ sep :: b := by
  induction s generalizing a with
  | nil => simp
  | cons c r ih =>
      rw [cut_cons]
      by_cases h : c = sep
      · subst h
        cases a with
        | nil => simp [eq_comm]
        | cons x xs =>
            simp only [if_true, Option.some.injEq, Prod.mk.injEq, reduceCtorEq, false_and,
              List.mem_cons, not_or, List.cons_append, List.cons.injEq, false_iff, not_and]
            intro hx hx'
            exact absurd hx'.symm (fun e => hx.1 e.symm)
      · rw [if_neg h]
        cases a with
        | nil =>
            simp only [Option.map_eq_some_iff, Prod.mk.injEq, reduceCtorEq, false_and, and_false,
              exists_false, List.not_mem_nil, not_false_eq_true, List.nil_append,
              List.cons.injEq, true_and, false_iff, not_and]
            intro e
            exact absurd e h
        | cons x xs =>
            simp only [Option.map_eq_some_iff, Prod.mk.injEq, List.cons.injEq, Prod.exists,
              List.mem_cons, not_or, List.cons_append]
            constructor
            · rintro ⟨p, q, hpq, ⟨rfl, rfl⟩, rfl⟩
              obtain ⟨hm, rfl⟩ := ih.1 hpq
              exact ⟨⟨Ne.symm h, hm⟩, rfl, rfl⟩
            · rintro ⟨⟨_, hm⟩, rfl, rfl⟩
              exact ⟨xs, b, ih.2 ⟨hm, rfl⟩, ⟨rfl, rfl⟩, rfl⟩

/-! ### Many cuts -/

/-- **The parts of a text between separators, at most `n` of them.**  The last of `n` parts takes
all that is left, separators included. -/
def splitUpTo (sep : Char) : Nat → List Char → List (List Char)
  | 0, _ => []
  | 1, s => [s]
  | n + 2, s =>
      match cut sep s with
      | none => [s]
      | some (a, b) => a :: splitUpTo sep (n + 1) b

/-! ### Repeated words at an end -/

/-- The text without the copies of `w` it starts with, at most `n` of them. -/
def dropCopies (w : List Char) : Nat → List Char → List Char
  | 0, s => s
  | n + 1, s => if w.isPrefixOf s then dropCopies w n (s.drop w.length) else s

/-- **The text without the copies of `w` it starts with.** -/
def dropRepeated (w s : List Char) : List Char := dropCopies w s.length s

/-- **The text without the copies of `w` it ends with.** -/
def dropRepeatedEnd (w s : List Char) : List Char := (dropRepeated w.reverse s.reverse).reverse

/-! ### Letter case -/

/-- **The text with its ASCII capitals made small**; all other characters are kept. -/
def lower (s : List Char) : List Char := s.map Char.toLower

def lowercase (s : String) : String := String.ofList (lower s.toList)

end Text

end Conform

/-
**Blanks around a text.**

Trimming takes away the blanks around a text and nothing else, so texts that differ in these blanks
only are trimmed alike.  It can be exchanged with making letters small, which makes no blank and
takes none away, and with cutting a text at a mark, which is no blank.

Main definitions:

* `Text.Pads` — that a text is another one with blanks around it.

Main results:

* `Text.pads_trim` — a text is its trimmed form with blanks around it;
* `Text.Pads.trim_eq` — **blanks around a text are not looked at**;
* `Text.trim_lower`, `Text.trim_before_trim` — trimming, letter case and cutting.
-/

import Mathlib.Data.List.TakeWhile
import Conform.Text.Cut

set_option relaxedAutoImplicit false
set_option autoImplicit false

namespace Conform

namespace Text

/-! ### Blanks at the ends -/

/-- **That a text is another one with blanks around it.** -/
def Pads (s t : List Char) : Prop :=
  ∃ before after, (∀ c ∈ before, isBlank c = true) ∧ (∀ c ∈ after, isBlank c = true) ∧
    t = before ++ (s ++ after)

theorem trimStart_append {before : List Char} (h : ∀ c ∈ before, isBlank c = true)
    (s : List Char) : trimStart (before ++ s) = trimStart s := List.dropWhile_append_of_pos h

theorem trimEnd_append_blank {after : List Char} (h : ∀ c ∈ after, isBlank c = true)
    (s : List Char) : trimEnd (s ++ after) = trimEnd s := by
  have hreverse : ∀ c ∈ after.reverse, isBlank c = true := fun c hc => h c (List.mem_reverse.1 hc)
  rw [trimEnd, List.reverse_append, List.dropWhile_append_of_pos hreverse]
  rfl

/-- A text is what was taken from its start, what is left, and what was taken from its end. -/
theorem pads_trim (s : List Char) : Pads (trim s) s := by
  have hblank : ∀ (t : List Char), ∀ c ∈ t.takeWhile isBlank, isBlank c = true := by
    intro t c hc
    exact List.mem_takeWhile_imp hc
  refine ⟨s.takeWhile isBlank, ((trimStart s).reverse.takeWhile isBlank).reverse, hblank s,
    fun c hc => hblank _ c (List.mem_reverse.1 hc), ?_⟩
  have hend : trim s ++ ((trimStart s).reverse.takeWhile isBlank).reverse = trimStart s := by
    rw [trim, trimEnd, ← List.reverse_append, List.takeWhile_append_dropWhile,
      List.reverse_reverse]
  rw [hend, trimStart, List.takeWhile_append_dropWhile]

theorem trimEnd_sublist (s : List Char) : (trimEnd s).Sublist s :=
  List.reverse_sublist.1 (by
    rw [trimEnd, List.reverse_reverse]
    exact List.dropWhile_sublist isBlank)

theorem trim_sublist (s : List Char) : (trim s).Sublist s :=
  (trimEnd_sublist _).trans (List.dropWhile_sublist isBlank)

/-- **Blanks around a text are not looked at.** -/
theorem Pads.trim_eq {s t : List Char} (h : Pads s t) : trim t = trim s := by
  obtain ⟨before, after, hbefore, hafter, rfl⟩ := h
  rw [trim, trim, trimStart_append hbefore]
  have hnone : trimStart after = [] := by
    rw [← List.append_nil after, trimStart_append hafter]
    rfl
  -- where nothing but blanks comes first, nothing but blanks comes last
  cases hs : trimStart s with
  | nil =>
      have hblank : trimStart (s ++ after) = trimStart after := by
        rw [trimStart, List.dropWhile_append, ← trimStart, hs]
        rfl
      rw [hblank, hnone]
  | cons c r =>
      have hkept : trimStart (s ++ after) = c :: r ++ after := by
        rw [trimStart, List.dropWhile_append, ← trimStart, hs]
        rfl
      rw [hkept, trimEnd_append_blank hafter]

/-! ### Letter case -/

/-- The visible characters of ASCII are no blanks. -/
theorem isBlank_eq_false {c : Char} (hlow : 33 ≤ c.toNat) (hhigh : c.toNat ≤ 126) :
    isBlank c = false := by
  simp only [isBlank, Bool.or_eq_false_iff, Bool.and_eq_false_iff, decide_eq_false_iff_not,
    beq_eq_false_iff_ne]
  omega

/-- A capital is made small by adding thirty-two; no other character is changed. -/
theorem toLower_cases (c : Char) :
    c.toLower = c ∨ 65 ≤ c.toNat ∧ c.toNat ≤ 90 ∧ c.toLower.toNat = c.toNat + 32 := by
  unfold Char.toLower
  split
  next h =>
    have hlow : 65 ≤ c.val.toNat := UInt32.le_iff_toNat_le.1 h.1
    have hhigh : c.val.toNat ≤ 90 := UInt32.le_iff_toNat_le.1 h.2
    refine .inr ⟨hlow, hhigh, ?_⟩
    change (c.val + 32).toNat = c.val.toNat + 32
    rw [UInt32.toNat_add]
    change (c.val.toNat + 32) % 2 ^ 32 = c.val.toNat + 32
    omega
  · exact .inl rfl

/-- **Making letters small makes no blank and takes none away.** -/
theorem isBlank_toLower (c : Char) : isBlank c.toLower = isBlank c := by
  rcases toLower_cases c with h | ⟨hlow, hhigh, h⟩
  · rw [h]
  · rw [isBlank_eq_false (c := c) (by omega) (by omega),
      isBlank_eq_false (c := c.toLower) (by omega) (by omega)]

theorem dropWhile_map_toLower (s : List Char) :
    (s.map Char.toLower).dropWhile isBlank = (s.dropWhile isBlank).map Char.toLower := by
  have hsame : isBlank ∘ Char.toLower = isBlank := funext isBlank_toLower
  rw [List.dropWhile_map, hsame]

/-- **Trimming and letter case can be exchanged.** -/
theorem trim_lower (s : List Char) : trim (lower s) = lower (trim s) := by
  simp only [trim, trimEnd, trimStart, lower, dropWhile_map_toLower, ← List.map_reverse]

/-! ### Cutting -/

variable {sep : Char}

theorem before_append {a : List Char} (h : sep ∉ a) (b : List Char) :
    before sep (a ++ b) = a ++ before sep b := by
  have hne : ∀ c ∈ a, (c != sep) = true := by
    intro c hc
    have hother : c ≠ sep := fun e => h (e ▸ hc)
    simpa using hother
  exact List.takeWhile_append_of_pos hne

theorem before_append_of_mem {a : List Char} (h : sep ∈ a) (b : List Char) :
    before sep (a ++ b) = before sep a := by
  induction a with
  | nil => cases h
  | cons c a ih =>
      rw [before, before, List.cons_append, List.takeWhile_cons, List.takeWhile_cons]
      split
      next hne =>
        have hother : sep ≠ c := fun e => by simp [e] at hne
        exact congrArg (c :: ·) (ih ((List.mem_cons.1 h).resolve_left hother))
      · rfl

/-- **What stands before a mark can be trimmed first or last.** -/
theorem trim_before_trim (hsep : isBlank sep = false) (s : List Char) :
    trim (before sep (trim s)) = trim (before sep s) := by
  have hfree : ∀ {t : List Char}, (∀ c ∈ t, isBlank c = true) → sep ∉ t := by
    intro t ht hmem
    rw [ht sep hmem] at hsep
    cases hsep
  obtain ⟨first, last, hfirst, hlast, hs⟩ := pads_trim s
  have hbefore : before sep s = first ++ before sep (trim s ++ last) :=
    (congrArg (before sep) hs).trans (before_append (hfree hfirst) _)
  refine Eq.symm (Pads.trim_eq ?_)
  rw [hbefore]
  by_cases hmem : sep ∈ trim s
  · -- the blanks at the end come after the mark
    exact ⟨first, [], hfirst, by simp, by rw [before_append_of_mem hmem, List.append_nil]⟩
  · refine ⟨first, last, hfirst, hlast, ?_⟩
    rw [before_append hmem, before_eq_self (hfree hlast), before_eq_self hmem]

end Text

end Conform

/-
**Spellings of live types.**

A keyword may be spelled in letters of any case, with blanks around it, and with a part in
parentheses after it.  The bare form of a spelling, on which all comparisons of types rest, leaves
out exactly this: two spellings have the same bare form when they spell one keyword, and only then.

Main definitions:

* `TypeName.Spells` — which texts spell a keyword;
* `TypeName.Alike` — that two spellings are of one keyword.

Main results:

* `TypeName.bare_eq` — the bare form is that of what stands before the parenthesis;
* `TypeName.alike_iff` — **spellings are alike exactly when their bare forms are the same**;
* `TypeName.Alike.fold_eq` — spellings that are alike mean the same type.
-/

import Conform.Live.TypeName
import Conform.Proofs.Text.Trimming

set_option relaxedAutoImplicit false
set_option autoImplicit false

namespace Conform

namespace TypeName

open Text

/-! ### The bare form -/

/-- Making letters small makes no parenthesis. -/
theorem before_lower (s : List Char) : before '(' (lower s) = lower (before '(' s) := by
  have hsame : (fun c => c != '(') ∘ Char.toLower = fun c => c != '(' := by
    funext c
    rcases toLower_cases c with h | ⟨hlow, hhigh, h⟩
    · rw [Function.comp_apply, h]
    · have hother : ∀ {x : Char}, x.toNat ≠ 40 → (x != '(') = true := by
        intro x hx
        have hne : x ≠ '(' := by
          rintro rfl
          exact hx rfl
        simpa using hne
      rw [Function.comp_apply, hother (by omega), hother (by omega)]
  rw [before, before, lower, lower, List.takeWhile_map, hsame]

/-- **The bare form is that of what stands before the parenthesis.** -/
theorem bare_eq (spelling : String) :
    bare spelling = lower (trim (before '(' spelling.toList)) := by
  rw [bare, before_lower, trim_lower, trim_before_trim (by decide)]

/-! ### Spellings of a keyword -/

/-- A keyword in letters of any case, with blanks around it. -/
def Writes (keyword s : List Char) : Prop := ∃ word, lower word = lower keyword ∧ Pads word s

/-- **Which texts spell a keyword**: it is written in letters of any case and with blanks around it,
and a parenthesis with any text may follow. -/
inductive Spells (keyword : List Char) : List Char → Prop
  | plain {s : List Char} : Writes keyword s → Spells keyword s
  | parenthesised {s : List Char} (rest : List Char) :
      Writes keyword s → Spells keyword (s ++ '(' :: rest)

/-- **That two spellings are of one keyword**, which holds no parenthesis. -/
def Alike (a b : String) : Prop :=
  ∃ keyword, '(' ∉ keyword ∧ Spells keyword a.toList ∧ Spells keyword b.toList

variable {keyword s : List Char}

theorem Writes.refl (keyword : List Char) : Writes keyword keyword :=
  ⟨keyword, rfl, [], [], nofun, nofun, by simp⟩

/-- Neither letter case nor blanks make a parenthesis. -/
theorem Writes.parenthesis_not_mem (h : Writes keyword s) (hfree : '(' ∉ keyword) : '(' ∉ s := by
  obtain ⟨word, hword, first, last, hfirst, hlast, rfl⟩ := h
  have hblank : ∀ {t : List Char}, (∀ c ∈ t, isBlank c = true) → '(' ∉ t :=
    fun ht hmem => absurd (ht '(' hmem) (by decide)
  have hsmall : before '(' (lower word) = lower word := by
    rw [hword, before_lower, before_eq_self hfree]
  have hkept : before '(' word = word := by
    have hlength := congrArg List.length hsmall
    rw [before_lower, lower, lower, List.length_map, List.length_map] at hlength
    exact (List.takeWhile_prefix _).eq_of_length hlength
  have hword : '(' ∉ word := by
    intro hmem
    rw [← hkept] at hmem
    exact absurd (List.mem_takeWhile_imp hmem) (by decide)
  simp only [List.mem_append, not_or]
  exact ⟨hblank hfirst, hword, hblank hlast⟩

/-- What is written of a keyword is small letters of it once it is trimmed. -/
theorem Writes.lower_trim (h : Writes keyword s) : lower (trim s) = lower (trim keyword) := by
  obtain ⟨word, hword, hpads⟩ := h
  rw [hpads.trim_eq, ← trim_lower, hword, trim_lower]

/-- **The bare form of a spelling is that of its keyword.** -/
theorem Spells.bare_eq {spelling : String} (h : Spells keyword spelling.toList)
    (hfree : '(' ∉ keyword) : bare spelling = lower (trim keyword) := by
  rw [TypeName.bare_eq]
  generalize spelling.toList = t at h
  cases h with
  | plain h => rw [before_eq_self (h.parenthesis_not_mem hfree), h.lower_trim]
  | @parenthesised s rest h =>
      have hcut : before '(' (s ++ '(' :: rest) = s := by
        rw [before_append (h.parenthesis_not_mem hfree)]
        exact List.append_nil s
      rw [hcut, h.lower_trim]

/-- A spelling spells what stands before its parenthesis, in letters of any case. -/
theorem spells_of_bare {spelling : String} (h : bare spelling = lower (trim keyword)) :
    Spells (trim keyword) spelling.toList := by
  rw [TypeName.bare_eq] at h
  have hwrites : Writes (trim keyword) (before '(' spelling.toList) := ⟨_, h, pads_trim _⟩
  have hsplit := List.takeWhile_append_dropWhile (p := fun c => c != '(') (l := spelling.toList)
  cases hrest : spelling.toList.dropWhile (fun c => c != '(') with
  | nil =>
      rw [hrest, List.append_nil] at hsplit
      exact hsplit ▸ .plain hwrites
  | cons c rest =>
      have hc : c = '(' := by
        have hstop := List.head?_dropWhile_not (fun c => c != '(') spelling.toList
        rw [hrest] at hstop
        simpa using hstop
      rw [hrest, hc] at hsplit
      exact hsplit ▸ .parenthesised rest hwrites

/-- **Spellings are alike exactly when their bare forms are the same.** -/
theorem alike_iff {a b : String} : Alike a b ↔ bare a = bare b := by
  constructor
  · rintro ⟨keyword, hfree, ha, hb⟩
    rw [ha.bare_eq hfree, hb.bare_eq hfree]
  · intro h
    have hfree : '(' ∉ trim (before '(' a.toList) := by
      intro hmem
      exact absurd (List.mem_takeWhile_imp ((trim_sublist _).subset hmem)) (by decide)
    exact ⟨trim (before '(' a.toList), hfree, spells_of_bare (bare_eq a),
      spells_of_bare (h ▸ bare_eq a)⟩

/-! ### Comparing spellings that are alike -/

namespace Alike

variable {a b : String}

/-- **Spellings that are alike mean the same type.** -/
theorem fold_eq (h : Alike a b) : fold a = fold b := by rw [fold, fold, alike_iff.1 h]

theorem same_eq (h : Alike a b) (wanted : String) : same a wanted = same b wanted := by
  rw [same, same, h.fold_eq]

theorem isText_eq (h : Alike a b) : isText a = isText b := by rw [isText, isText, h.fold_eq]

theorem isString_eq (h : Alike a b) : isString a = isString b := by
  rw [isString, isString, h.fold_eq]

theorem widens_eq (h : Alike a b) (wanted : String) : widens a wanted = widens b wanted := by
  rw [widens, widens, h.fold_eq]

end Alike

end TypeName

end Conform

/-
**A key is reported once for each time that it is repeated.**

Every occurrence of a key after the first one is refused, whatever its rule says, and no rule is
refused for this reason.  So the errors of a definition tell, for each key, how often it is given.

Main results:

* `Rule.ne_repeatedKey_of_validate` — no rule is refused as a repeated key;
* `Occurrence.error?_eq_repeatedKey_iff` — which occurrences are;
* `Definition.countP_repeated` — how many occurrences of a key repeat it;
* `Definition.count_repeatedKey` — **a key is reported once for each time that it is repeated**.
-/

import Conform.Proofs.Definition.Verdicts
import Mathlib.Data.List.Induction

set_option relaxedAutoImplicit false
set_option autoImplicit false

namespace Conform

theorem bind_eq_error {ε α β : Type} {x : Except ε α} {next : α → Except ε β} {e : ε} :
    (x >>= next) = .error e ↔ x = .error e ∨ ∃ a, x = .ok a ∧ next a = .error e := by
  cases x <;> simp [bind, Except.bind]

/-! ### Rules -/

namespace Rule

variable {d : Dialect} {fault : Fault}

theorem ne_repeatedKey_of_readKind {part : List Char} (h : readKind part = .error fault) :
    fault ≠ .repeatedKey := by
  rintro rfl
  simp only [readKind] at h
  split at h <;> cases h

theorem ne_repeatedKey_of_readBound {which : Bound} {part : List Char}
    (h : readBound which part = .error fault) : fault ≠ .repeatedKey := by
  rintro rfl
  simp only [readBound] at h
  split at h
  · cases h
  · split at h <;> cases h

theorem ne_repeatedKey_of_readDefault {kind : Kind} {part : List Char}
    (h : readDefault kind part = .error fault) : fault ≠ .repeatedKey := by
  rintro rfl
  simp only [readDefault] at h
  split at h
  · cases h
  · split at h
    · split at h
      · cases h
      · split at h <;> cases h
    · cases h

theorem ne_repeatedKey_of_readFlag {part : List Char} (h : readFlag part = .error fault) :
    fault ≠ .repeatedKey := by
  rintro rfl
  simp only [readFlag] at h
  split at h
  · cases h
  · split at h <;> cases h

/-- The parts of a rule are not refused as a repeated key. -/
theorem ne_repeatedKey_of_parse {raw : String} (h : parse raw = .error fault) :
    fault ≠ .repeatedKey := by
  unfold parse ofParts at h
  split at h
  · rcases bind_eq_error.1 h with h | ⟨kind, -, h⟩
    · exact ne_repeatedKey_of_readKind h
    rcases bind_eq_error.1 h with h | ⟨lower, -, h⟩
    · exact ne_repeatedKey_of_readBound h
    rcases bind_eq_error.1 h with h | ⟨upper, -, h⟩
    · exact ne_repeatedKey_of_readBound h
    rcases bind_eq_error.1 h with h | ⟨default, -, h⟩
    · exact ne_repeatedKey_of_readDefault h
    rcases bind_eq_error.1 h with h | ⟨indexed, -, h⟩
    · exact ne_repeatedKey_of_readFlag h
    · cases h
  · cases h
    exact Fault.noConfusion

/-- A rule that can be parsed has no fault as a repeated key. -/
theorem ne_repeatedKey_of_check {r : Rule} (h : r.check d = some fault) : fault ≠ .repeatedKey := by
  rintro rfl
  rcases Option.or_eq_some_iff.1 h with h | ⟨-, h⟩
  · rcases Option.or_eq_some_iff.1 h with h | ⟨-, h⟩
    · unfold checkText at h
      repeat' split at h
      all_goals cases h
    · unfold checkLength at h
      repeat' split at h
      all_goals cases h
  · unfold checkBounds at h
    repeat' split at h
    all_goals cases h

/-- **No rule is refused as a repeated key.** -/
theorem ne_repeatedKey_of_validate {key raw : String} (h : validate d key raw = .error fault) :
    fault ≠ .repeatedKey := by
  unfold validate at h
  split at h
  · cases h
    exact Fault.noConfusion
  · rcases bind_eq_error.1 h with h | ⟨r, -, h⟩
    · exact ne_repeatedKey_of_parse h
    · split at h
      next hcheck =>
        cases h
        exact ne_repeatedKey_of_check hcheck
      · cases h

end Rule

/-! ### Occurrences -/

/-- **Which occurrences are refused as repeated keys**: those that repeat one, whatever their
rule. -/
theorem Occurrence.error?_eq_repeatedKey_iff {d : Dialect} {table key : String} {w : Occurrence} :
    w.error? d table = some ⟨table, key, .repeatedKey⟩ ↔ w.repeated = true ∧ w.key = key := by
  unfold error? rule
  cases w.repeated with
  | true => simp
  | false =>
      cases hrule : Rule.validate d w.key w.raw with
      | ok r => simp
      | error fault => simp [Rule.ne_repeatedKey_of_validate hrule]

namespace Definition

/-- One field more is one occurrence more, and the others are as they were. -/
theorem occurrences_append (table : String) (comment : Option String)
    (fields : List (String × String)) (f : String × String) :
    (⟨table, comment, fields ++ [f]⟩ : Definition).occurrences =
      (⟨table, comment, fields⟩ : Definition).occurrences ++
        [⟨f.1, f.2, f.1 ∈ fields.map (·.1)⟩] := by
  unfold occurrences
  rw [List.zipIdx_append, List.map_append]
  congr 1
  · refine List.map_congr_left fun p hp => ?_
    have hlt : p.2 < fields.length := by simpa using List.snd_lt_of_mem_zipIdx hp
    simp only [List.take_append_of_le_length (Nat.le_of_lt hlt)]
  · simp

/-- **How many occurrences of a key repeat it**: all but the first one. -/
theorem countP_repeated (t : Definition) (key : String) :
    t.occurrences.countP (fun w => w.repeated && w.key == key) =
      (t.fields.map (·.1)).count key - 1 := by
  obtain ⟨table, comment, fields⟩ := t
  -- by induction from the right, as an occurrence looks at the fields before it
  induction fields using List.reverseRecOn with
  | nil => rfl
  | append_singleton fields f ih =>
      rw [occurrences_append, List.countP_append, ih, List.map_append, List.count_append]
      by_cases hkey : f.1 = key
      · subst hkey
        by_cases hbefore : f.1 ∈ fields.map (·.1)
        · have hpos : 0 < (fields.map (·.1)).count f.1 := List.count_pos_iff.2 hbefore
          simp [hbefore, Nat.sub_add_cancel hpos]
        · have hzero : (fields.map (·.1)).count f.1 = 0 := List.count_eq_zero.2 hbefore
          simp [hbefore, hzero]
      · simp [hkey]

/-- **A key is reported once for each time that it is repeated.** -/
theorem count_repeatedKey (d : Dialect) (t : Definition) (key : String) :
    (t.errors d).count ⟨t.table, key, .repeatedKey⟩ = (t.fields.map (·.1)).count key - 1 := by
  have hname : (if t.hasName then [] else [⟨t.table, "", .blankTable⟩] : List RuleError).count
      ⟨t.table, key, .repeatedKey⟩ = 0 := by
    cases t.hasName <;> simp
  rw [errors, List.count_append, hname, Nat.zero_add, fieldErrors_eq_filterMap, ← countP_repeated,
    List.count, List.countP_filterMap]
  refine List.countP_congr fun w _ => ?_
  have hw : w.error? d t.table = some ⟨t.table, key, .repeatedKey⟩ ↔
      w.repeated = true ∧ w.key = key := Occurrence.error?_eq_repeatedKey_iff
  rw [Bool.and_eq_true, beq_iff_eq, ← hw]
  cases w.error? d t.table <;> simp

end Definition

end Conform

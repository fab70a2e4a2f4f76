/-
**What the fields of a definition have in common.**

Fields that are read have pairwise different keys, none of which belongs to a system column, and
each of them has an admissible rule.  Planning relies on nothing else.

Main definitions:

* `Declared` — lists of such fields;
* `users`, `userFields` — a small definition, at which later modules look, and its fields.

Main results:

* `Rule.validate_eq_ok_iff` — when a rule is accepted;
* `declared_of_readFields` — **the fields that a definition is read as are declared**;
* `Definition.readFields_eq_error_iff` — reading the fields finds their first error;
* `map_field_of_readFields` — they have the keys and the rules that are written;
* `Declared.eq_of_key` — a key belongs to one field only;
* `Declared.length_of_bounded` — a bounded field has a length that the dialect allows;
* `Declared.length_lt` — every length of a column is below `2 ^ 64`.
-/

import Conform.Column

set_option relaxedAutoImplicit false
set_option autoImplicit false

namespace Conform

/-- **Fields with different keys and admissible rules.** -/
structure Declared (d : Dialect) (fields : List Field) : Prop where
  distinct : (fields.map (·.key)).Nodup
  free : ∀ f ∈ fields, f.key ∉ reservedKeys
  checked : ∀ f ∈ fields, f.rule.check d = none

/-! ### Reading -/

theorem bind_eq_ok {ε α β : Type} {x : Except ε α} {next : α → Except ε β} {b : β} :
    (x >>= next) = .ok b ↔ ∃ a, x = .ok a ∧ next a = .ok b := by
  cases x <;> simp [bind, Except.bind]

/-- **A rule is accepted exactly when its key is free, it can be parsed, and it has no fault.** -/
theorem Rule.validate_eq_ok_iff {d : Dialect} {key raw : String} {r : Rule} :
    Rule.validate d key raw = .ok r ↔
      key ∉ reservedKeys ∧ Rule.parse raw = .ok r ∧ r.check d = none := by
  unfold Rule.validate
  by_cases hreserved : key ∈ reservedKeys
  · simp [hreserved]
  · rw [if_neg hreserved, bind_eq_ok]
    constructor
    · rintro ⟨parsed, hparse, hchecked⟩
      -- the rule that is checked is the one that is returned
      split at hchecked
      · cases hchecked
      next hcheck =>
        cases hchecked
        exact ⟨hreserved, hparse, hcheck⟩
    · rintro ⟨-, hparse, hcheck⟩
      exact ⟨r, hparse, by rw [hcheck]; rfl⟩

/-- The length of a column is in order when it is not bounded, or has a length that the dialect
allows. -/
theorem Rule.checkLength_eq_none_iff {d : Dialect} {r : Rule} :
    r.checkLength d = none ↔
      (r.kind.isBounded = true → ∃ n, r.length = some n ∧ n ≤ d.varcharLimit) := by
  unfold Rule.checkLength
  cases r.kind.isBounded with
  | false => simp
  | true => cases r.length <;> simp

/-- A verdict that is a field: the key is new, and its rule is the one that is accepted. -/
theorem verdict_eq_ok {d : Dialect} {table : String} {earlier : List String} {key raw : String}
    {f : Field} (h : Definition.verdict d table earlier key raw = .ok f) :
    f.key = key ∧ key ∉ earlier ∧ Rule.validate d key raw = .ok f.rule := by
  unfold Definition.verdict at h
  split at h
  · cases h
  next hnew =>
    split at h
    next rule hrule =>
      cases h
      exact ⟨rfl, hnew, hrule⟩
    · cases h

/-- Fields that are read after others are declared, and none of the keys before them is used
again. -/
theorem declared_of_verdictsAfter {d : Dialect} {table : String} {earlier : List String}
    {written : List (String × String)} {fields : List Field}
    (h : Definition.verdictsAfter d table earlier written = fields.map .ok) :
    Declared d fields ∧ ∀ f ∈ fields, f.key ∉ earlier := by
  -- the keys that were read are carried along, so that a later field cannot repeat one
  induction written generalizing earlier fields with
  | nil =>
      obtain rfl : fields = [] := List.map_eq_nil_iff.1 h.symm
      exact ⟨⟨List.nodup_nil, by simp, by simp⟩, by simp⟩
  | cons w rest ih =>
      obtain ⟨key, raw⟩ := w
      cases fields with
      | nil => simp [Definition.verdictsAfter] at h
      | cons f fs =>
          simp only [Definition.verdictsAfter, List.map_cons, List.cons.injEq] at h
          obtain ⟨hkey, hnew, hrule⟩ := verdict_eq_ok h.1
          obtain ⟨hfree, -, hchecked⟩ := Rule.validate_eq_ok_iff.1 hrule
          obtain ⟨hrest, hlater⟩ := ih h.2
          refine ⟨⟨?_, ?_, ?_⟩, ?_⟩
          · rw [List.map_cons, List.nodup_cons]
            refine ⟨fun hmem => ?_, hrest.distinct⟩
            obtain ⟨g, hg, hsame⟩ := List.mem_map.1 hmem
            exact hlater g hg (by rw [hsame, hkey]; exact List.mem_cons_self ..)
          · exact List.forall_mem_cons.2 ⟨hkey ▸ hfree, hrest.free⟩
          · exact List.forall_mem_cons.2 ⟨hchecked, hrest.checked⟩
          · refine List.forall_mem_cons.2 ⟨hkey ▸ hnew, fun g hg hmem => ?_⟩
            exact hlater g hg (List.mem_cons_of_mem _ hmem)

/-- **The fields that a definition is read as are declared.** -/
theorem declared_of_readFields {d : Dialect} {t : Definition} {fields : List Field}
    (h : t.readFields d = .ok fields) : Declared d fields :=
  (declared_of_verdictsAfter (Definition.readFields_eq_ok_iff.1 h)).1

/-! ### Errors -/

namespace Definition

variable {d : Dialect} {t : Definition}

/-- **Reading the fields finds their first error.** -/
theorem readFields_eq_error_iff {e : RuleError} :
    t.readFields d = .error e ↔ (t.fieldErrors d).head? = some e := by
  unfold readFields fieldErrors
  induction t.verdicts d with
  | nil => simp [firstError]
  | cons v vs ih =>
      cases v with
      | error e' => simp [firstError]
      | ok f =>
          rw [List.filterMap_cons_none rfl, ← ih, firstError]
          cases firstError vs <;> simp

/-- **The fields are read exactly when none of them has an error.** -/
theorem exists_readFields_iff :
    (∃ fields, t.readFields d = .ok fields) ↔ t.fieldErrors d = [] := by
  have hfirst : ∀ e, t.readFields d = .error e ↔ (t.fieldErrors d).head? = some e :=
    fun _ => readFields_eq_error_iff
  cases hread : t.readFields d with
  | ok fields =>
      have hnone : (t.fieldErrors d).head? = none := by
        refine Option.eq_none_iff_forall_ne_some.2 fun e he => ?_
        rw [← hfirst, hread] at he
        cases he
      simpa using List.head?_eq_none_iff.1 hnone
  | error e =>
      have hsome : t.fieldErrors d ≠ [] := by
        intro hnone
        have he := (hfirst e).1 hread
        rw [hnone] at he
        cases he
      simpa using hsome

/-- A definition whose fields have no errors has none but that of a blank name. -/
theorem errors_of_fieldErrors (h : t.fieldErrors d = []) :
    t.errors d = if t.hasName then [] else [⟨t.table, "", .blankTable⟩] := by
  rw [errors, h, List.append_nil]

end Definition

/-- **A definition without errors has its fields.** -/
theorem readFields_of_errors {d : Dialect} {t : Definition} (h : t.errors d = []) :
    ∃ fields, t.readFields d = .ok fields :=
  Definition.exists_readFields_iff.2 (List.append_eq_nil_iff.1 h).2

/-! ### Keys as they are written -/

/-- Fields that are read after others have the keys and the rules that are written. -/
theorem map_field_of_verdictsAfter {d : Dialect} {table : String} {earlier : List String}
    {written : List (String × String)} {fields : List Field}
    (h : Definition.verdictsAfter d table earlier written = fields.map .ok) :
    fields.map (fun f => (f.key, Except.ok f.rule)) =
      written.map fun w => (w.1, Rule.validate d w.1 w.2) := by
  induction written generalizing earlier fields with
  | nil => rw [List.map_eq_nil_iff.1 h.symm]; rfl
  | cons w rest ih =>
      obtain ⟨key, raw⟩ := w
      cases fields with
      | nil => simp [Definition.verdictsAfter] at h
      | cons f fs =>
          simp only [Definition.verdictsAfter, List.map_cons, List.cons.injEq] at h
          obtain ⟨hkey, -, hrule⟩ := verdict_eq_ok h.1
          rw [List.map_cons, List.map_cons, ih h.2, hkey, hrule]

/-- **The fields have the keys and the rules that are written**, in their order. -/
theorem map_field_of_readFields {d : Dialect} {t : Definition} {fields : List Field}
    (h : t.readFields d = .ok fields) :
    fields.map (fun f => (f.key, Except.ok f.rule)) =
      t.fields.map fun w => (w.1, Rule.validate d w.1 w.2) :=
  map_field_of_verdictsAfter (Definition.readFields_eq_ok_iff.1 h)

/-- **The fields have the keys that are written**, in their order. -/
theorem keys_of_readFields {d : Dialect} {t : Definition} {fields : List Field}
    (h : t.readFields d = .ok fields) : fields.map (·.key) = t.fields.map (·.1) := by
  simpa [Function.comp_def] using congrArg (List.map Prod.fst) (map_field_of_readFields h)

theorem keys_columns (d : Dialect) (fields : List Field) :
    (fields.map (·.column d)).map (·.key) = fields.map (·.key) := by
  rw [List.map_map]
  rfl

namespace Declared

variable {d : Dialect} {fields : List Field}

/-! ### Keys -/

theorem tail {f : Field} (h : Declared d (f :: fields)) : Declared d fields :=
  ⟨(List.nodup_cons.1 h.distinct).2, fun g hg => h.free g (List.mem_cons_of_mem _ hg),
    fun g hg => h.checked g (List.mem_cons_of_mem _ hg)⟩

theorem key_ne {f g : Field} (h : Declared d (f :: fields)) (hg : g ∈ fields) : g.key ≠ f.key :=
  fun e => (List.nodup_cons.1 h.distinct).1 (List.mem_map.2 ⟨g, hg, e⟩)

/-- **A key belongs to one field only.** -/
theorem eq_of_key (h : Declared d fields) {f g : Field} (hf : f ∈ fields) (hg : g ∈ fields)
    (hkey : f.key = g.key) : f = g := by
  induction fields with
  | nil => cases hf
  | cons first rest ih =>
      rcases List.mem_cons.1 hf with rfl | hf' <;> rcases List.mem_cons.1 hg with rfl | hg'
      · rfl
      · exact absurd hkey.symm (h.key_ne hg')
      · exact absurd hkey (h.key_ne hf')
      · exact ih h.tail hf' hg'

/-- A field is found by its key. -/
theorem find?_key (h : Declared d fields) {f : Field} (hf : f ∈ fields) :
    fields.find? (·.key == f.key) = some f := by
  cases hfound : fields.find? (·.key == f.key) with
  | none =>
      have hnone := List.find?_eq_none.1 hfound f hf
      simp at hnone
  | some g =>
      have hkey : g.key = f.key := by simpa using List.find?_some hfound
      rw [h.eq_of_key (List.mem_of_find?_eq_some hfound) hf hkey]

/-- The keys of fields are not those of system columns. -/
theorem key_ne_system (h : Declared d fields) {f : Field} (hf : f ∈ fields) (c : SystemColumn) :
    f.key ≠ c.key := by
  intro e
  refine h.free f hf ?_
  rw [e]
  cases c <;> decide

/-! ### Lengths -/

/-- **A bounded field has a length that the dialect allows.** -/
theorem length_of_bounded (h : Declared d fields) {f : Field} (hf : f ∈ fields)
    (hbounded : f.rule.kind.isBounded = true) :
    ∃ n, f.rule.length = some n ∧ n ≤ d.varcharLimit :=
  Rule.checkLength_eq_none_iff.1 (Rule.check_eq_none_iff.1 (h.checked f hf)).2.1 hbounded

theorem length_column (f : Field) : (f.column d).type.length = f.rule.length := by
  simp only [Field.column, Kind.columnType, Rule.length]
  split <;> rfl

theorem bounded_of_length {f : Field} {n : Nat} (h : f.rule.length = some n) :
    f.rule.kind.isBounded = true := by
  unfold Rule.length at h
  split at h
  next hbounded => exact hbounded
  · cases h

/-- **The length of a column is a length that can be read**: it is below `2 ^ 64`. -/
theorem length_lt (h : Declared d fields) {f : Field} (hf : f ∈ fields) {n : Nat}
    (hlength : (f.column d).type.length = some n) : n < Numeral.lengthLimit := by
  rw [length_column] at hlength
  obtain ⟨m, hm, hle⟩ := h.length_of_bounded hf (bounded_of_length hlength)
  obtain rfl : n = m := Option.some.inj (hlength.symm.trans hm)
  have hlimit : d.varcharLimit < Numeral.lengthLimit := by cases d <;> decide
  omega

end Declared

/-! ### A small definition -/

theorem eq_ok_of_toOption {ε α : Type} {x : Except ε α} {a : α} (h : x.toOption = some a) :
    x = .ok a := by
  cases x with
  | error e => cases h
  | ok b => exact congrArg Except.ok (Option.some.inj h)

/-- A table of users with their addresses, which are not indexed. -/
def users : Definition := ⟨"user", none, [("email", "mail|string|0|20|null|0|null")]⟩

/-- The address of a user. -/
def addressField : Field :=
  ⟨"email", ⟨"mail", .string, some ⟨false, 0⟩, some ⟨false, 20 * Binary64.one⟩, .absent, false,
    none⟩⟩

/-- The fields of the table of users. -/
def userFields : List Field := [addressField]

theorem readFields_users (d : Dialect) : users.readFields d = .ok userFields := by
  cases d <;> exact eq_ok_of_toOption (by decide +kernel)

end Conform

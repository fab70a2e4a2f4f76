/-
**What is altered in place, and what would narrow.**

Without the switch for it, a column is never made shorter than the length that it has.  A column of
a string type without a length is not protected: it is given the length of its rule.

Main results:

* `shapeStep_eq_alter_iff` — when the type or the length of a column is altered;
* `alters_bounded_iff` — **when a bounded field alters a live column**;
* `alters_bounded_wider`, `alters_unbounded` — a shorter column is altered, and so is one without
  a length.
-/

import Conform.Proofs.Plan.Drafting

set_option relaxedAutoImplicit false
set_option autoImplicit false

namespace Conform

variable {d : Dialect} {o : Options} {table : String} {s : Snapshot}

/-! ### One column -/

/-- **The type or the length of a column is altered** when one of them differs, the dialect has a
clause for it, and the column does not shrink or may do so. -/
theorem shapeStep_eq_alter_iff {allowShrink : Bool} {live : LiveColumn} {c : Column} {k : Clause} :
    shapeStep d allowShrink live c = .alter k ↔
      Clause.retype? d c = some k ∧ (typeChange? live c ≠ none ∨ lengthChange? live c ≠ none) ∧
        (shrinking? live c = none ∨ allowShrink = true) := by
  unfold shapeStep
  cases typeChange? live c <;> cases lengthChange? live c <;> cases Clause.retype? d c <;>
    cases shrinking? live c <;> cases allowShrink <;> simp

theorem typeChange?_ne_none_iff {live : LiveColumn} {c : Column} :
    typeChange? live c ≠ none ↔ TypeName.same live.type c.type.storage.keyword = false := by
  unfold typeChange?
  split <;> simp_all

theorem lengthChange?_ne_none_iff {live : LiveColumn} {c : Column} {n : Nat}
    (h : c.type.length = some n) : lengthChange? live c ≠ none ↔ live.length ≠ some n := by
  simp only [lengthChange?, h]
  split <;> simp_all

theorem shrinking?_eq_none_iff {live : LiveColumn} {c : Column} {n : Nat}
    (h : c.type.length = some n) :
    shrinking? live c = none ↔ ∀ m, live.length = some m → m ≤ n := by
  unfold shrinking?
  rw [h]
  cases live.length with
  | none => simp
  | some m => simp

theorem retype?_ne_none_iff {c : Column} : (∃ k, Clause.retype? d c = some k) ↔ d ≠ .sqlite := by
  cases d <;> simp [Clause.retype?]

/-! ### Plans -/

/-- The clauses of a plan that change the type of a live column are those of its field. -/
theorem modifies_of_field {fields : List Field} (hfields : Declared d fields) {p : Planned}
    (h : planLiveTable d o table fields s = .ok p) {f : Field} (hf : f ∈ fields)
    {live : LiveColumn} (hlive : s.columns[f.key]? = some live) {k : Clause} :
    (k ∈ p.plan.modifies ∧ k.key = f.key) ↔
      shapeStep d o.allowShrink live (f.column d) = .alter k := by
  obtain ⟨a, hdraft, rfl⟩ := planLiveTable_eq_ok_iff.1 h
  have hgroup := mem_group_of_field Draft.modifies (.alterTable table) rfl
    (fun _ _ _ => List.mem_append)
    (fun _ k hk => Draft.mem_statements_iff.2 (.inl ⟨k, .inl hk, rfl⟩)) hfields hdraft hf
    (draftField_of_live hdraft hf hlive).2 (x := k)
  rw [draft_review] at hgroup
  rw [← mem_clauses_shape, ← hgroup, Statement.column?, Option.some_inj]
  rfl

/-- **When a bounded field alters a live column**, where columns may not shrink: the dialect alters
columns, and the live column has no length, or a shorter one, or the same one with another type.
So no length is reduced, but a column that has none is given one. -/
theorem alters_bounded_iff {t : Definition} {fields : List Field}
    (hread : t.readFields d = .ok fields) (hshrink : o.allowShrink = false) {p : Planned}
    (hplan : planLiveTable d o t.table fields s = .ok p) {f : Field} (hf : f ∈ fields)
    (hbounded : f.rule.kind.isBounded = true) {live : LiveColumn}
    (hlive : s.columns[f.key]? = some live) :
    ∃ n, f.rule.length = some n ∧
      ((∃ k ∈ p.plan.modifies, k.key = f.key) ↔
        d ≠ .sqlite ∧ (live.length = none ∨ ∃ m, live.length = some m ∧
          (m < n ∨ m = n ∧ TypeName.same live.type Storage.varchar.keyword = false))) := by
  have hfields := declared_of_readFields hread
  obtain ⟨n, hlength, _⟩ := hfields.length_of_bounded hf hbounded
  refine ⟨n, hlength, ?_⟩
  have hcolumn : (f.column d).type.length = some n := by
    rw [Declared.length_column]
    exact hlength
  -- strings and arrays are stored alike, so that only the names of types can differ
  have hstorage : (f.column d).type.storage = .varchar := by
    cases hkind : f.rule.kind <;> simp_all [Field.column, Kind.columnType, Kind.storage,
      Kind.isBounded]
  have halters : (∃ k ∈ p.plan.modifies, k.key = f.key) ↔
      ∃ k, shapeStep d o.allowShrink live (f.column d) = .alter k :=
    exists_congr fun k => modifies_of_field hfields hplan hf hlive
  rw [halters]
  simp only [shapeStep_eq_alter_iff, exists_and_right, retype?_ne_none_iff,
    typeChange?_ne_none_iff, lengthChange?_ne_none_iff hcolumn, shrinking?_eq_none_iff hcolumn,
    hshrink, Bool.false_eq_true, or_false, hstorage]
  refine and_congr_right fun _ => ?_
  cases live.length with
  | none => simp
  | some m =>
      simp only [ne_eq, Option.some.injEq, reduceCtorEq, false_or, forall_eq']
      constructor
      · rintro ⟨hchange, hle⟩
        refine ⟨m, rfl, ?_⟩
        rcases Nat.lt_or_eq_of_le hle with hlt | heq
        · exact .inl hlt
        · exact .inr ⟨heq, hchange.resolve_right fun hne => hne heq⟩
      · rintro ⟨m', hm', hlt | ⟨heq, hother⟩⟩
        · omega
        · exact ⟨.inl hother, by omega⟩

/-- Addresses as PostgreSQL reports them, perhaps with a length. -/
def liveAddress (length : Option Nat) : LiveColumn :=
  ⟨"character varying", length, true, none, some "mail"⟩

/-- A table of users with such addresses. -/
def liveUsers (length : Option Nat) : Snapshot :=
  ⟨Std.ExtTreeMap.ofList [("email", liveAddress length)], ∅⟩

/-- The plan that gives the addresses of users a length of twenty. -/
def lengthenUsers : Planned :=
  { plan :=
      { table := "user", changed := true, modifies := [.alterType "email" ⟨.varchar, some 20⟩] }
    counters := { lengths := 1 } }

/-- The addresses of users are lengthened where they are shorter. -/
theorem alters_bounded_wider :
    (∃ k ∈ lengthenUsers.plan.modifies, k.key = "email") ∧
      ∃ n, addressField.rule.length = some n ∧
        ((∃ k ∈ lengthenUsers.plan.modifies, k.key = "email") ↔
          Dialect.postgres ≠ .sqlite ∧ (some 10 = none ∨ ∃ m, some 10 = some m ∧
            (m < n ∨ m = n ∧
              TypeName.same "character varying" Storage.varchar.keyword = false))) := by
  have hplan : planLiveTable .postgres {} users.table userFields (liveUsers (some 10)) =
      .ok lengthenUsers := eq_ok_of_toOption (by decide +kernel)
  have hlive : (liveUsers (some 10)).columns[addressField.key]? = some (liveAddress (some 10)) := by
    decide +kernel
  exact ⟨⟨_, List.mem_singleton.2 rfl, rfl⟩,
    alters_bounded_iff (readFields_users .postgres) rfl hplan (List.mem_singleton.2 rfl) rfl hlive⟩

/-- **Addresses of any length are cut down to twenty characters**, though columns may not shrink. -/
theorem alters_unbounded :
    users.readFields .postgres = .ok userFields ∧
      planLiveTable .postgres { allowShrink := false } "user" userFields
          (liveUsers none) = .ok lengthenUsers ∧
      TypeName.isString "character varying" = true ∧
      ¬ ∀ f ∈ userFields, f.rule.kind.isBounded = true → ∀ live,
          (liveUsers none).columns[f.key]? = some live →
          TypeName.isString live.type = true →
          (∃ k ∈ lengthenUsers.plan.modifies, k.key = f.key) →
            ∃ m n, live.length = some m ∧ f.rule.length = some n ∧ m ≤ n := by
  refine ⟨readFields_users .postgres, eq_ok_of_toOption (by decide +kernel), by decide +kernel, ?_⟩
  intro hclaim
  obtain ⟨m, n, hm, -⟩ := hclaim addressField (List.mem_singleton.2 rfl) rfl
    (liveAddress none) (by decide +kernel) (by decide +kernel)
    ⟨_, List.mem_singleton.2 rfl, rfl⟩
  cases hm

end Conform

/-
**A column that is modified does not stay NOT NULL.**

MySQL takes a clause that modifies a column for all that is known of the column, and a column of
which nothing else is stated may be null.  The clause is laid out from the wanted column, which has
a type, a default and a label; whether the live column may be null is reported, but no plan looks at
it.  So a clause never states NOT NULL, and a column keeps it only where it is not modified.

Main definitions:

* `Clause.statesNotNull` — whether the text of a clause states NOT NULL;
* `Snapshot.SameButNullability` — that two snapshots differ at most in which columns may be null.

Main results:

* `planLiveTable_congr_nullability` — **plans do not look at nullability**, in any dialect;
* `Clause.statesNotNull_modifyColumn` — no modified column states NOT NULL;
* `not_null_kept_iff` — **when every NOT NULL column keeps it under MySQL**;
* `widened_address_nullable` — a longer column loses it.
-/

import Mathlib.Data.List.Infix
import Conform.Proofs.Live.Value
import Conform.Proofs.Plan.Narrowing
import Conform.Proofs.Plan.Remainder
import Conform.Proofs.Sql.Spacing

set_option relaxedAutoImplicit false
set_option autoImplicit false

namespace Conform

variable {d : Dialect} {o : Options} {table : String} {s s' : Snapshot} {fields : List Field}

/-! ### Plans do not look at nullability -/

/-- The column, as if it could be null. -/
def LiveColumn.forgetNullability (live : LiveColumn) : LiveColumn := { live with nullable := true }

/-- **That two snapshots differ at most in which columns may be null.** -/
structure Snapshot.SameButNullability (s s' : Snapshot) : Prop where
  columns : ∀ key : String, s.columns[key]?.map LiveColumn.forgetNullability =
    s'.columns[key]?.map LiveColumn.forgetNullability
  indexes : s.indexes = s'.indexes

theorem review_forgetNullability (live : LiveColumn) (c : Column) :
    review d o live.forgetNullability c = review d o live c := rfl

theorem draftField_congr_nullability (h : s.SameButNullability s') (f : Field) :
    draftField d o table s f = draftField d o table s' f := by
  have hcolumn := h.columns f.key
  cases hs : s.columns[f.key]? with
  | none =>
      rw [hs, Option.map_none, eq_comm, Option.map_eq_none_iff] at hcolumn
      rw [draftField_of_none hs, draftField_of_none hcolumn]
  | some live =>
      rw [hs, Option.map_some, eq_comm, Option.map_eq_some_iff] at hcolumn
      obtain ⟨live', hs', hforget⟩ := hcolumn
      have htype : live'.type = live.type := congrArg (·.type) hforget
      rw [draftField_of_some hs, draftField_of_some hs', htype,
        ← review_forgetNullability live', hforget, review_forgetNullability]

theorem contains_congr_nullability (h : s.SameButNullability s') (key : String) :
    s.columns.contains key = s'.columns.contains key := by
  rw [contains_iff, contains_iff, ← Option.isSome_map (f := LiveColumn.forgetNullability),
    h.columns key, Option.isSome_map]

/-- **Plans do not look at nullability**, in any dialect; nor do their refusals. -/
theorem planLiveTable_congr_nullability (h : s.SameButNullability s') :
    planLiveTable d o table fields s = planLiveTable d o table fields s' := by
  have hdraft : draftFields d o table s fields = draftFields d o table s' fields :=
    draftFields_congr_of_forall fun f _ => draftField_congr_nullability h f
  have hindexes : ∀ columns, indexChanges table s columns = indexChanges table s' columns :=
    indexChanges_congr h.indexes fun key _ => contains_congr_nullability h key
  simp only [planLiveTable, hdraft, draftIndexes_eq, hindexes]

/-! ### The words of a column -/

open Sql

theorem Sql.mem_tokens_iff {t : Token} {l : Layout} : t ∈ tokens l ↔ Piece.token t ∈ l := by
  unfold tokens
  rw [List.mem_filterMap]
  constructor
  · rintro ⟨p, hp, ht⟩
    cases p with
    | token u => rwa [Option.some.inj ht] at hp
    | gap _ => cases ht
    | verbatim _ => cases ht
  · intro h
    exact ⟨_, h, rfl⟩

theorem toString_nat_ne_not (n : Nat) : toString n ≠ "NOT" := by
  intro h
  have hmem : 'N' ∈ (toString n).toList := by rw [h]; decide
  rw [toList_toString_nat] at hmem
  exact absurd (Nat.isDigit_of_mem_toDigits (by decide) (by decide) hmem) (by decide)

theorem not_mem_type (t : ColumnType) : Sql.word "NOT" ∉ t.layout := by
  obtain ⟨storage, length⟩ := t
  have hkeyword : "NOT" ≠ storage.keyword := by cases storage <;> decide
  cases length with
  | none => simpa [ColumnType.layout, Sql.word] using hkeyword
  | some n =>
      have hnumber := (toString_nat_ne_not n).symm
      simpa [ColumnType.layout, Sql.word, Sql.mark] using ⟨hkeyword, hnumber⟩

theorem not_mem_integer (n : Int) : Sql.word "NOT" ∉ integerLayout n := by
  cases n with
  | ofNat n => simpa [integerLayout, Sql.word] using (toString_nat_ne_not n).symm
  | negSucc n => simpa [integerLayout, Sql.word, Sql.mark] using (toString_nat_ne_not (n + 1)).symm

theorem not_mem_value {v : Default} {value : Layout} (h : v.layout? = some value) :
    Sql.word "NOT" ∉ value := by
  cases v with
  | absent => cases h
  | number n =>
      obtain rfl := Option.some.inj h
      exact not_mem_integer n.toInt
  | text s =>
      obtain rfl := Option.some.inj h
      simp [Sql.word, Sql.literal]

theorem not_mem_defaultLayout (c : Column) : Sql.word "NOT" ∉ c.defaultLayout := by
  unfold Column.defaultLayout
  cases h : c.default.layout? with
  | none => simp
  | some value => simpa [Sql.word, Sql.space, Sql.words] using not_mem_value h

theorem not_mem_commentLayout (c : Column) : Sql.word "NOT" ∉ c.commentLayout .mysql := by
  unfold Column.commentLayout
  by_cases hlabel : c.label = ""
  · simp [hlabel]
  · simp [hlabel, Sql.word, Sql.space, Sql.words, Sql.literal]

/-- **A modified column is laid out without the word NOT.** -/
theorem not_mem_modifyColumn (c : Column) :
    Sql.word "NOT" ∉ (Clause.modifyColumn c).layout .mysql := by
  have htype := not_mem_type c.type
  have hdefault := not_mem_defaultLayout c
  have hcomment := not_mem_commentLayout c
  have hparts := And.intro htype (And.intro hdefault hcomment)
  simpa [Clause.layout, Column.layout, Column.specification, Sql.word, Sql.words, Sql.space,
    Sql.name] using hparts

/-- **Whether the text of a clause states NOT NULL** under MySQL. -/
def Clause.statesNotNull (k : Clause) : Bool :=
  (Sql.scan .mysql (Sql.write .mysql (k.layout .mysql))).any fun ts =>
    [.word "NOT", .word "NULL"] <:+: ts

theorem Clause.statesNotNull_eq (k : Clause) :
    k.statesNotNull = decide ([.word "NOT", .word "NULL"] <:+: tokens (k.layout .mysql)) := by
  rw [Clause.statesNotNull, scan_write (spaced_clause k), Option.any_some]

/-- **No modified column states NOT NULL**, whatever its label and its default are. -/
theorem Clause.statesNotNull_modifyColumn (c : Column) :
    (Clause.modifyColumn c).statesNotNull = false := by
  rw [Clause.statesNotNull_eq, decide_eq_false_iff_not]
  intro hstates
  have hmem : Token.word "NOT" ∈ tokens ((Clause.modifyColumn c).layout .mysql) :=
    hstates.subset (List.mem_cons_self ..)
  exact not_mem_modifyColumn c (Sql.mem_tokens_iff.1 hmem)

/-! ### Columns that keep NOT NULL -/

/-- **That a live column is left as it is**: it has the type and the length that are wanted, or it
would shrink and may not. -/
def LiveColumn.IsLeft (allowShrink : Bool) (live : LiveColumn) (c : Column) : Prop :=
  (typeChange? live c = none ∧ lengthChange? live c = none) ∨
    (shrinking? live c ≠ none ∧ allowShrink = false)

/-- A live column is modified under MySQL unless it is left as it is. -/
theorem modifies_iff_not_left {t : Definition} (hread : t.readFields .mysql = .ok fields)
    {p : Planned} (hplan : planLiveTable .mysql o table fields s = .ok p) {f : Field}
    (hf : f ∈ fields) {live : LiveColumn} (hlive : s.columns[f.key]? = some live) :
    (∃ k ∈ p.plan.modifies, k.key = f.key) ↔ ¬ live.IsLeft o.allowShrink (f.column .mysql) := by
  have hclause : (∃ k ∈ p.plan.modifies, k.key = f.key) ↔
      ∃ k, shapeStep .mysql o.allowShrink live (f.column .mysql) = .alter k :=
    exists_congr fun k => modifies_of_field (declared_of_readFields hread) hplan hf hlive
  rw [hclause]
  simp only [shapeStep_eq_alter_iff, Clause.retype?, Option.some.injEq, exists_eq_left']
  unfold LiveColumn.IsLeft
  cases typeChange? live (f.column .mysql) <;> cases lengthChange? live (f.column .mysql) <;>
    cases shrinking? live (f.column .mysql) <;> cases o.allowShrink <;> simp

/-- What a plan modifies under MySQL are columns of its fields. -/
theorem modifyColumn_of_mem {p : Planned} (hplan : planLiveTable .mysql o table fields s = .ok p)
    {k : Clause} (hk : k ∈ p.plan.modifies) :
    ∃ f ∈ fields, k = .modifyColumn (f.column .mysql) := by
  obtain ⟨a, hdraft, rfl⟩ := planLiveTable_eq_ok_iff.1 hplan
  obtain ⟨f, hf, b, hb, hkb⟩ :=
    (mem_group_draftFields Draft.modifies rfl (fun _ _ _ => List.mem_append) hdraft).1 hk
  refine ⟨f, hf, ?_⟩
  cases hlive : s.columns[f.key]? with
  | none =>
      rw [draftField_of_none hlive] at hb
      cases hb
      cases hkb
  | some live =>
      rw [draftField_of_some hlive] at hb
      split at hb
      · cases hb
      · cases hb
        simp only [draft_review, mem_clauses_shape] at hkb
        have hretype : some (Clause.modifyColumn (f.column .mysql)) = some k :=
          retype?_of_shapeStep hkb
        exact (Option.some.inj hretype).symm

/-- **When every NOT NULL column keeps it under MySQL.**  A clause that modifies a column restates
the wanted one and never NOT NULL, and the plan is the same whatever columns may be null.  So every
NOT NULL column that is modified has it restated exactly when none is modified: each of them has the
type and the length that are wanted, or would shrink and may not. -/
theorem not_null_kept_iff {t : Definition} (hread : t.readFields .mysql = .ok fields) {p : Planned}
    (hplan : planLiveTable .mysql o t.table fields s = .ok p) :
    (∀ k ∈ p.plan.modifies,
      (∃ f ∈ fields, k = .modifyColumn (f.column .mysql)) ∧ k.statesNotNull = false) ∧
    (∀ s', s.SameButNullability s' → planLiveTable .mysql o t.table fields s' = .ok p) ∧
    ((∀ f ∈ fields, ∀ live, s.columns[f.key]? = some live → live.nullable = false →
        ∀ k ∈ p.plan.modifies, k.key = f.key → k.statesNotNull = true) ↔
      ∀ f ∈ fields, ∀ live, s.columns[f.key]? = some live → live.nullable = false →
        live.IsLeft o.allowShrink (f.column .mysql)) := by
  have hsilent : ∀ k ∈ p.plan.modifies, k.statesNotNull = false := by
    intro k hk
    obtain ⟨f, -, rfl⟩ := modifyColumn_of_mem hplan hk
    exact Clause.statesNotNull_modifyColumn _
  refine ⟨fun k hk => ⟨modifyColumn_of_mem hplan hk, hsilent k hk⟩,
    fun s' hsame => (planLiveTable_congr_nullability hsame).symm.trans hplan, ?_⟩
  constructor
  · intro hkept f hf live hlive hnull
    by_contra hleft
    obtain ⟨k, hk, hkey⟩ := (modifies_iff_not_left hread hplan hf hlive).2 hleft
    have hstates := hkept f hf live hlive hnull k hk hkey
    rw [hsilent k hk] at hstates
    cases hstates
  · intro hleft f hf live hlive hnull k hk hkey
    exact absurd (hleft f hf live hlive hnull)
      ((modifies_iff_not_left hread hplan hf hlive).1 ⟨k, hk, hkey⟩)

/-! ### A longer address -/

/-- Addresses that may not be null, as MySQL reports them. -/
def mandatoryAddress (length : Nat) : LiveColumn := ⟨"varchar", some length, false, none, none⟩

/-- A table of users with such addresses. -/
def mandatoryUsers (length : Nat) : Snapshot :=
  ⟨Std.ExtTreeMap.ofList [("email", mandatoryAddress length)], ∅⟩

/-- The plan that gives the addresses of users twenty characters under MySQL. -/
def modifiedUsers : Planned :=
  { plan :=
      { table := "user", changed := true, modifies := [.modifyColumn (addressField.column .mysql)] }
    counters := { lengths := 1 } }

/-- Addresses of ten characters are modified without NOT NULL; those of twenty are left. -/
theorem not_null_kept_users :
    (users.readFields .mysql = .ok userFields ∧
      planLiveTable .mysql {} users.table userFields (mandatoryUsers 10) = .ok modifiedUsers ∧
      ∀ k ∈ modifiedUsers.plan.modifies, k.statesNotNull = false) ∧
    planLiveTable .mysql {} users.table userFields (mandatoryUsers 20) =
        .ok ⟨{ table := "user" }, 0⟩ ∧
      ∀ live, (mandatoryUsers 20).columns[addressField.key]? = some live → live.nullable = false →
        live.IsLeft false (addressField.column .mysql) := by
  have hread := readFields_users .mysql
  have hplan : planLiveTable .mysql {} users.table userFields (mandatoryUsers 10) =
      .ok modifiedUsers := eq_ok_of_toOption (by decide +kernel)
  have hidle : planLiveTable .mysql {} users.table userFields (mandatoryUsers 20) =
      .ok ⟨{ table := "user" }, 0⟩ := eq_ok_of_toOption (by decide +kernel)
  refine ⟨⟨hread, hplan, fun k hk => ((not_null_kept_iff hread hplan).1 k hk).2⟩, hidle, ?_⟩
  exact (not_null_kept_iff hread hidle).2.2.1 (fun _ _ _ _ _ k hk => by cases hk) addressField
    (List.mem_singleton.2 rfl)

/-- **Addresses that may not be null are made longer by a clause that does not say so**, and which
MySQL takes for that of a column that may be null. -/
theorem widened_address_nullable :
    users.readFields .mysql = .ok userFields ∧
      planLiveTable .mysql {} "user" userFields (mandatoryUsers 10) = .ok modifiedUsers ∧
      Sql.write .mysql ((Clause.modifyColumn (addressField.column .mysql)).layout .mysql) =
        "MODIFY COLUMN \x60email\x60 VARCHAR(20) COMMENT 'mail'" ∧
      ¬ ∀ f ∈ userFields, ∀ live, (mandatoryUsers 10).columns[f.key]? = some live →
          live.nullable = false →
          ∀ k ∈ modifiedUsers.plan.modifies, k.key = f.key → k.statesNotNull = true := by
  refine ⟨readFields_users .mysql, eq_ok_of_toOption (by decide +kernel), by decide +kernel, ?_⟩
  intro hclaim
  have hstates := hclaim addressField (List.mem_singleton.2 rfl) (mandatoryAddress 10)
    (by decide +kernel) rfl _ (List.mem_singleton.2 rfl) rfl
  exact absurd hstates (by decide +kernel)

end Conform

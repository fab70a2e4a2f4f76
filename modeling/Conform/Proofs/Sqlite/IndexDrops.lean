/-
**Which indexes of a SQLite database are dropped.**

The report of an index lists its plain columns only.  So an index that covers the column of a field
and nothing else is told from one that covers other columns too, but not from one that covers an
expression too: both are dropped when the field wants no index.

Main definitions:

* `Sqlite.Index.IsPlain` — that an index covers columns and no expression.

Main results:

* `Sqlite.drop_mem_planOn_iff` — when a plan drops an index;
* `Sqlite.dropped_index_iff` — **when the sync of a table drops an index, and what it covers**.
-/

import Conform.Proofs.Sqlite.Sync

set_option relaxedAutoImplicit false
set_option autoImplicit false

namespace Conform

namespace Sqlite

open Database

variable {db : Database} {o : Options} {t : Definition} {fields : List Field} {p : Planned}

/-! ### What an index covers -/

/-- **That an index covers columns and no expression.** -/
def Index.IsPlain (i : Index) : Prop := ∀ part ∈ i.parts, part = .column part.source

/-- The parts of an index that covers no expression are its plain columns. -/
theorem Index.IsPlain.parts_eq {i : Index} (h : i.IsPlain) :
    i.parts = (plainColumns i).map .column := by
  rw [plainColumns, List.map_filterMap]
  refine (Eq.trans (List.filterMap_congr fun part hpart => ?_) List.filterMap_some).symm
  rw [h part hpart]
  rfl

/-- **An index whose only plain column is given covers nothing else exactly when it covers no
expression.** -/
theorem parts_eq_singleton_iff {i : Index} {key : String} (h : plainColumns i = [key]) :
    i.parts = [.column key] ↔ i.IsPlain := by
  constructor
  · intro hparts part hpart
    rw [hparts] at hpart
    rw [List.mem_singleton.1 hpart]
    rfl
  · intro hplain
    rw [hplain.parts_eq, h]
    rfl

/-! ### Plans -/

/-- **When a plan drops an index**: the table is there, a field wants no index, and the database has
one of the name for it, which is not unique and has the column of the field as its only plain
column. -/
theorem drop_mem_planOn_iff (h : planOn db o t fields = .ok p) {n key : String} :
    (⟨.drop, n, key⟩ : IndexChange) ∈ p.plan.indexes ↔
      db.hasTable t.table = true ∧ n = indexName t.table key ∧
        (∃ f ∈ fields, f.key = key ∧ f.rule.indexed = false) ∧
          ∃ i ∈ db.indexes, i.name = n ∧ sameName i.table t.table = true ∧ i.unique = false ∧
            plainColumns i = [key] := by
  rcases planOn_eq_ok_iff.1 h with ⟨habsent, rfl⟩ | ⟨hthere, -, s, hs, hplan⟩
  · -- a new table has new indexes only
    constructor
    · intro hdrop
      rw [planNewTable_indexes] at hdrop
      obtain ⟨_, -, hverb⟩ := List.mem_map.1 hdrop
      cases hverb
    · rintro ⟨hthere, -⟩
      rw [habsent] at hthere
      cases hthere
  · obtain ⟨a, -, rfl⟩ := planLiveTable_eq_ok_iff.1 hplan
    change _ ∈ indexChanges t.table s (fields.map (·.column .sqlite)) ↔ _
    rw [drop_mem_indexChanges_iff, indexes_reported_iff hs]
    constructor
    · rintro ⟨hname, ⟨c, hc, hkey, hindexed⟩, -, hindex⟩
      obtain ⟨f, hf, rfl⟩ := List.mem_map.1 hc
      exact ⟨hthere, hname, ⟨f, hf, hkey, hindexed⟩, hindex⟩
    · rintro ⟨-, hname, ⟨f, hf, hkey, hindexed⟩, hindex⟩
      exact ⟨hname, ⟨f.column .sqlite, List.mem_map_of_mem hf, hkey, hindexed⟩,
        List.cons_ne_nil _ _, hindex⟩

/-! ### An index of addresses -/

/-- A table of users with their addresses. -/
def userTable : Table :=
  ⟨"user", [.ofType "VARCHAR(20)" "email"], .free, by decide +kernel, by decide +kernel⟩

/-- An index of the addresses, and perhaps of their small letters too. -/
def addressIndex (mixed : Bool) : Index :=
  ⟨"idx_user_email", "user", false, .column "email" :: if mixed then [.lowered "email"] else []⟩

/-- The table of users with that index. -/
def indexedUsers (mixed : Bool) : Database :=
  ⟨[userTable], [addressIndex mixed], by cases mixed <;> decide +kernel, by
    intro i hi
    rw [List.mem_singleton.1 hi]
    refine ⟨userTable, List.mem_singleton.2 rfl, ?_⟩
    unfold Index.BelongsTo
    cases mixed <;> decide +kernel⟩

/-- The plan that drops the index. -/
def unindexUsers : Planned :=
  { plan := { table := "user", changed := true, indexes := [⟨.drop, "idx_user_email", "email"⟩] }
    counters := { indexesDropped := 1 } }

/-- Whether it covers more or not, the index is dropped when addresses are not to be indexed. -/
theorem planTable_indexedUsers (mixed : Bool) :
    ∃ j', (planTable backend {} users userFields).run ⟨indexedUsers mixed, []⟩ =
      (.ok unindexUsers, j') := by
  have hplan : planOn (indexedUsers mixed) {} users userFields = .ok unindexUsers := by
    cases mixed <;> exact eq_ok_of_toOption (by decide +kernel)
  obtain ⟨log, hrun⟩ := run_planTable {} users userFields ⟨indexedUsers mixed, []⟩
  exact ⟨_, hrun.trans (by rw [hplan])⟩

/-! ### What a sync drops -/

/-- **When the sync of a table drops an index, and what it covers.**  The index that is dropped is
the one of its name; it is not unique, and the column of the field is its only plain column.  It
covers that column and nothing else exactly when it covers no expression. -/
theorem dropped_index_iff {j j' : Journal Database}
    (h : (planTable backend o t fields).run j = (.ok p, j')) (n key : String) :
    ((⟨.drop, n, key⟩ : IndexChange) ∈ p.plan.indexes ↔
      j.state.hasTable t.table = true ∧ n = indexName t.table key ∧
        (∃ f ∈ fields, f.key = key ∧ f.rule.indexed = false) ∧
          ∃ i ∈ j.state.indexes, i.name = n ∧ sameName i.table t.table = true ∧
            i.unique = false ∧ plainColumns i = [key]) ∧
      ((⟨.drop, n, key⟩ : IndexChange) ∈ p.plan.indexes →
        ∃ i, (∀ i' ∈ j.state.indexes, sameName i'.name n = true ↔ i' = i) ∧
          i ∈ j.state.indexes ∧ i.unique = false ∧ (i.parts = [.column key] ↔ i.IsPlain)) := by
  obtain ⟨log, hrun⟩ := run_planTable o t fields j
  rw [hrun] at h
  have hplan : planOn j.state o t fields = .ok p := congrArg Prod.fst h
  refine ⟨drop_mem_planOn_iff hplan, fun hdrop => ?_⟩
  obtain ⟨-, -, -, i, hi, rfl, -, hunique, hcolumns⟩ := (drop_mem_planOn_iff hplan).1 hdrop
  refine ⟨i, fun i' hi' => ⟨index_eq_of_sameName hi' hi, ?_⟩, hi, hunique,
    parts_eq_singleton_iff hcolumns⟩
  rintro rfl
  exact sameName_self i'.name

/-- The index of the addresses alone is dropped. -/
theorem dropped_index_of_users :
    ∃ j', (planTable backend {} users userFields).run ⟨indexedUsers false, []⟩ =
        (.ok unindexUsers, j') ∧
      (⟨.drop, "idx_user_email", "email"⟩ : IndexChange) ∈ unindexUsers.plan.indexes ∧
      ∃ i, (∀ i' ∈ (indexedUsers false).indexes,
          sameName i'.name "idx_user_email" = true ↔ i' = i) ∧
        i ∈ (indexedUsers false).indexes ∧ i.unique = false ∧
          (i.parts = [.column "email"] ↔ i.IsPlain) := by
  obtain ⟨j', hrun⟩ := planTable_indexedUsers false
  exact ⟨j', hrun, List.mem_singleton.2 rfl,
    (dropped_index_iff hrun "idx_user_email" "email").2 (List.mem_singleton.2 rfl)⟩

/-- **An index of addresses and of their small letters is dropped too**, so an index that is dropped
may cover more than the column of the field. -/
theorem dropped_mixed_index :
    ¬ ∀ (o : Options) (t : Definition) (fields : List Field) (p : Planned)
        (j j' : Journal Database),
        t.readFields .sqlite = .ok fields → (planTable backend o t fields).run j = (.ok p, j') →
          ∀ n key, (⟨.drop, n, key⟩ : IndexChange) ∈ p.plan.indexes →
            ∀ i ∈ j.state.indexes, i.name = n → i.unique = false ∧ i.parts = [.column key] := by
  intro hclaim
  obtain ⟨j', hrun⟩ := planTable_indexedUsers true
  have hparts := (hclaim {} users userFields unindexUsers _ j' (readFields_users .sqlite) hrun
    "idx_user_email" "email" (List.mem_singleton.2 rfl) (addressIndex true)
    (List.mem_singleton.2 rfl) rfl).2
  cases hparts

end Sqlite

end Conform

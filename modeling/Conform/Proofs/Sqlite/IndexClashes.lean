/-
**Which planned indexes have names that are taken.**

A plan for a table that is there makes the indexes that are wanted and not reported.  The report
leaves out unique indexes and indexes that cover no plain column, and it has every name as it is
spelled, while names are the same to the database whatever their letter case.  So an index can be
planned although the table has one of its name.

Main definitions:

* `Sqlite.Index.IsReported` — that an index is in the report of its table;
* `Sqlite.WantsIndex` — that a column of a table is to have an index.

Main results:

* `Sqlite.create_mem_planOn_iff` — when a plan for a table that is there makes an index;
* `Sqlite.clashing_index_iff` — **when an index that is planned has the name of one that the table
  has**.
-/

import Conform.Proofs.Sqlite.IndexDrops

set_option relaxedAutoImplicit false
set_option autoImplicit false

namespace Conform

namespace Sqlite

open Database

variable {db : Database} {o : Options} {t : Definition} {fields : List Field} {p : Planned}
  {table : String} {s : Snapshot}

/-! ### What is reported -/

/-- **That an index is in the report of its table**: it is not unique, and it covers a column. -/
def Index.IsReported (i : Index) : Prop := i.unique = false ∧ plainColumns i ≠ []

/-- The indexes that are reported under a name: those of the table that are spelled so. -/
theorem indexes_unreported_iff (hs : db.reported? table = some s) {name : String} :
    s.indexes[name]? = none ↔
      ∀ i ∈ db.indexesOf table, i.name = name → ¬ i.IsReported := by
  rw [← not_iff_not, ← ne_eq, Option.ne_none_iff_exists']
  simp only [not_forall, not_not]
  constructor
  · rintro ⟨columns, hcolumns⟩
    obtain ⟨hne, i, hi, hname, htable, hunique, rfl⟩ := (indexes_reported_iff hs).1 hcolumns
    exact ⟨i, List.mem_filter.2 ⟨hi, htable⟩, hname, hunique, hne⟩
  · rintro ⟨i, hi, hname, hunique, hne⟩
    obtain ⟨hi, htable⟩ := List.mem_filter.1 hi
    exact ⟨_, (indexes_reported_iff hs).2 ⟨hne, i, hi, hname, htable, hunique, rfl⟩⟩

/-- The columns that are reported: those that are not computed, as they are spelled. -/
theorem columns_reported_iff (hs : db.reported? table = some s) {key : String} :
    s.columns.contains key = true ↔
      ∃ u, db.table? table = some u ∧ ∃ c ∈ u.columns, c.name = key ∧ c.computed = false := by
  obtain ⟨u, hu, hcolumns, -⟩ := reported?_eq_some_iff.1 hs
  obtain ⟨-, hreport⟩ := reportedColumns?_eq_some_iff.1 hcolumns
  rw [hreport, Std.ExtTreeMap.contains_ofList, List.map_map, List.contains_iff_mem, List.mem_map]
  constructor
  · rintro ⟨c, hc, hname⟩
    obtain ⟨hc, hcomputed⟩ := List.mem_filter.1 hc
    exact ⟨u, hu, c, hc, hname, by simpa using hcomputed⟩
  · rintro ⟨v, hv, c, hc, hname, hcomputed⟩
    obtain rfl : u = v := Option.some.inj (hu.symm.trans hv)
    exact ⟨c, List.mem_filter.2 ⟨hc, by simp [hcomputed]⟩, hname⟩

/-! ### What is planned -/

/-- **That a column of a table is to have an index**: it is one of the system columns that always
get one, and it is there and not computed, or a field declares it so. -/
def WantsIndex (db : Database) (table : String) (fields : List Field) (key : String) : Prop :=
  (key ∈ systemIndexKeys ∧
    ∃ u, db.table? table = some u ∧ ∃ c ∈ u.columns, c.name = key ∧ c.computed = false) ∨
  ∃ f ∈ fields, f.key = key ∧ f.rule.indexed = true

/-- **When a plan for a table that is there makes an index**: the column is to have one, and no
index that is spelled like it is reported. -/
theorem create_mem_planOn_iff (h : planOn db o t fields = .ok p)
    (hthere : db.hasTable t.table = true) {n key : String} :
    (⟨.create, n, key⟩ : IndexChange) ∈ p.plan.indexes ↔
      n = indexName t.table key ∧ WantsIndex db t.table fields key ∧
        ∀ i ∈ db.indexesOf t.table, i.name = n → ¬ i.IsReported := by
  rcases planOn_eq_ok_iff.1 h with ⟨habsent, -⟩ | ⟨-, -, s, hs, hplan⟩
  · rw [hthere] at habsent
    cases habsent
  · obtain ⟨a, -, rfl⟩ := planLiveTable_eq_ok_iff.1 hplan
    change _ ∈ indexChanges t.table s (fields.map (·.column .sqlite)) ↔ _
    rw [create_mem_indexChanges_iff, indexes_unreported_iff hs, columns_reported_iff hs, WantsIndex]
    simp only [List.mem_map, exists_exists_and_eq_and]
    exact and_congr_right fun _ => and_comm

/-! ### A unique index of addresses -/

/-- A table of users with their addresses, which are indexed. -/
def indexingUsers : Definition := ⟨"user", none, [("email", "mail|string|0|20|null|1|null")]⟩

/-- The fields of that table. -/
def indexingFields : List Field :=
  [⟨"email", ⟨"mail", .string, some ⟨false, 0⟩, some ⟨false, 20 * Binary64.one⟩, .absent, true,
    none⟩⟩]

theorem readFields_indexingUsers : indexingUsers.readFields .sqlite = .ok indexingFields :=
  eq_ok_of_toOption (by decide +kernel)

/-- An index under which no two users have the same address. -/
def uniqueAddress : Index := ⟨"idx_user_email", "user", true, [.column "email"]⟩

/-- The table of users with that index. -/
def uniqueUsers : Database :=
  ⟨[userTable], [uniqueAddress], by decide +kernel, by
    intro i hi
    rw [List.mem_singleton.1 hi]
    refine ⟨userTable, List.mem_singleton.2 rfl, ?_⟩
    unfold Index.BelongsTo
    decide +kernel⟩

/-- The plan that makes an index of the addresses. -/
def indexUsers : Planned :=
  { plan := { table := "user", changed := true, indexes := [⟨.create, "idx_user_email", "email"⟩] }
    counters := { indexesCreated := 1 } }

theorem planTable_uniqueUsers :
    ∃ j', (planTable backend {} indexingUsers indexingFields).run ⟨uniqueUsers, []⟩ =
      (.ok indexUsers, j') := by
  have hplan : planOn uniqueUsers {} indexingUsers indexingFields = .ok indexUsers :=
    eq_ok_of_toOption (by decide +kernel)
  obtain ⟨log, hrun⟩ := run_planTable {} indexingUsers indexingFields ⟨uniqueUsers, []⟩
  exact ⟨_, hrun.trans (by rw [hplan])⟩

/-! ### Names that are taken -/

/-- **When an index that is planned has the name of one that the table has.**  The column is to have
an index, and the one that the table has is of the name for it; but that is not reported, or it is
spelled in other letters. -/
theorem clashing_index_iff {j j' : Journal Database}
    (h : (planTable backend o t fields).run j = (.ok p, j'))
    (hthere : j.state.hasTable t.table = true) {i : Index} (hi : i ∈ j.state.indexesOf t.table)
    (key : String) :
    (∃ n, (⟨.create, n, key⟩ : IndexChange) ∈ p.plan.indexes ∧ sameName i.name n = true) ↔
      WantsIndex j.state t.table fields key ∧
        sameName i.name (indexName t.table key) = true ∧
          ¬ (i.IsReported ∧ i.name = indexName t.table key) := by
  obtain ⟨log, hrun⟩ := run_planTable o t fields j
  rw [hrun] at h
  have hplan : planOn j.state o t fields = .ok p := congrArg Prod.fst h
  simp only [create_mem_planOn_iff hplan hthere]
  constructor
  · rintro ⟨n, ⟨rfl, hwanted, hnone⟩, hsame⟩
    exact ⟨hwanted, hsame, fun ⟨hreported, hname⟩ => hnone i hi hname hreported⟩
  · rintro ⟨hwanted, hsame, hnot⟩
    refine ⟨_, ⟨rfl, hwanted, fun i' hi' hname hreported => ?_⟩, hsame⟩
    -- an index that is reported under the name is the one that has it
    have hfold : sameName i'.name i.name = true := by
      rw [hname]
      exact sameName_comm hsame
    obtain rfl : i' = i :=
      index_eq_of_sameName (List.mem_filter.1 hi').1 (List.mem_filter.1 hi).1 hfold
    exact hnot ⟨hreported, hname⟩

/-- The plan for the users makes an index of the name of the unique one. -/
theorem clashing_index_of_users :
    ∃ j', (planTable backend {} indexingUsers indexingFields).run ⟨uniqueUsers, []⟩ =
        (.ok indexUsers, j') ∧
      WantsIndex uniqueUsers "user" indexingFields "email" ∧
        sameName uniqueAddress.name (indexName "user" "email") = true ∧
          ¬ (uniqueAddress.IsReported ∧ uniqueAddress.name = indexName "user" "email") := by
  obtain ⟨j', hrun⟩ := planTable_uniqueUsers
  have hthere : uniqueUsers.hasTable indexingUsers.table = true := by decide +kernel
  have hindex : uniqueAddress ∈ uniqueUsers.indexesOf indexingUsers.table := by decide +kernel
  exact ⟨j', hrun, (clashing_index_iff hrun hthere hindex "email").1
    ⟨_, List.mem_singleton.2 rfl, sameName_self _⟩⟩

/-- **An index is planned whose name a unique index of the table has.** -/
theorem planned_over_unique_index :
    ¬ ∀ (o : Options) (t : Definition) (fields : List Field) (p : Planned)
        (j j' : Journal Database), t.readFields .sqlite = .ok fields →
        j.state.hasTable t.table = true → (planTable backend o t fields).run j = (.ok p, j') →
          ∀ n key, (⟨.create, n, key⟩ : IndexChange) ∈ p.plan.indexes →
            ∀ i ∈ j.state.indexesOf t.table, i.name ≠ n := by
  intro hclaim
  obtain ⟨j', hrun⟩ := planTable_uniqueUsers
  have hthere : uniqueUsers.hasTable indexingUsers.table = true := by decide +kernel
  have hindex : uniqueAddress ∈ uniqueUsers.indexesOf indexingUsers.table := by decide +kernel
  exact hclaim {} indexingUsers indexingFields indexUsers ⟨uniqueUsers, []⟩ j'
    readFields_indexingUsers hthere hrun "idx_user_email" "email" (List.mem_singleton.2 rfl)
    uniqueAddress hindex rfl

end Sqlite

end Conform

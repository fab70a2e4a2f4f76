/-
**When a table can be made, and what commands on it leave admitted.**

A table is made when its name is free and nothing about its columns is refused; it grows by columns
and indexes of which the same is true.  So when commands on a table have succeeded, what they made
of it was all admitted, nothing that was there before has its names, and the other tables are as
they were.

Main definitions:

* `Command.added?` — the column that a command adds;
* `Database.Makeable` — **that a table can be made**;
* `Database.Sound` — **that what became of a table was admitted, and that nothing else changed**.

Main results:

* `Database.createTable_succeeds_iff` — a table is made exactly when it can be;
* `Database.createIndexes_succeed` — **when indexes can be made one after the other**;
* `Database.columns_runCommands` — the columns of a table after commands on it;
* `Database.Sound.run`, `Database.Sound.runCommands` — **what one command leaves sound, and some**;
* `Database.Sound.makeable`, `Database.Sound.index` — such a table and its indexes can be made from
  what was there at first.
-/

import Conform.Proofs.Sqlite.Frame

set_option relaxedAutoImplicit false
set_option autoImplicit false

namespace Conform

namespace Sqlite

/-- A name that is reserved is so in other letters. -/
theorem isReserved_congr {a b : String} (h : sameName a b = true) :
    isReserved a = isReserved b := by
  rw [isReserved, isReserved, sameName_iff.1 h]

/-- The table of sequences does not have a name that is not reserved. -/
theorem sameName_sequences {name : String} (h : isReserved name = false) :
    sameName sequences.name name = false := by
  rw [← Bool.not_eq_true]
  intro hsame
  have hreserved : isReserved sequences.name = true := by decide +kernel
  rw [isReserved_congr hsame, h] at hreserved
  cases hreserved

/-- The column that a command adds. -/
def Command.added? : Command → Option Column
  | addColumn _ c => some c
  | createTable _ _ _ _ | createIndex _ _ _ _ | dropIndex _ | dropTable _ => none

namespace Database

variable {db db' old : Database} {table : String}

/-! ### When changes succeed -/

/-- **That a table can be made.** -/
structure Makeable (db : Database) (name : String) (columns : List Column) : Prop where
  nonempty : columns ≠ []
  few : columns.length ≤ columnLimit
  unreserved : isReserved name = false
  readable : ∀ c ∈ columns, c.texts.any hasNul = false
  free : db.isTaken name = false
  distinct : DistinctColumns columns
  named : hasNul name = false

/-- **A table is made exactly when it can be.** -/
theorem createTable_succeeds_iff {name : String} {columns : List Column} {numbered : Bool}
    {growth : Growth} :
    (∃ db', db.createTable name columns numbered growth = .ok db') ↔
      db.Makeable name columns := by
  constructor
  · rintro ⟨db', h⟩
    obtain ⟨hfree, hreserved, hdistinct, -, ⟨t, -, rfl, -⟩, -⟩ := createTable_eq_ok h
    unfold createTable at h
    split at h
    · cases h
    next hempty =>
      split at h
      · cases h
      next hfew =>
        split at h
        · cases h
        · split at h
          · cases h
          next hreadable =>
            exact ⟨by simpa using hempty, Nat.le_of_not_lt hfew, hreserved,
              by simpa using hreadable, hfree, hdistinct, t.named⟩
  · rintro ⟨hempty, hfew, hreserved, hreadable, hfree, hdistinct, hnamed⟩
    have hreadable' : columns.any (·.texts.any hasNul) = false := by simpa using hreadable
    have hempty' : columns.isEmpty = false := by simpa using hempty
    simp only [createTable, insertTable, hempty', hreserved, hreadable', hfree, hdistinct, hnamed,
      Nat.not_lt.2 hfew, Bool.false_eq_true, if_false, dite_true, dite_false]
    exact ⟨_, rfl⟩

/-- A name that neither the table has nor that of sequences is free after the table was made if it
was free before. -/
theorem isTaken_createTable {name other : String} {columns : List Column} {numbered : Bool}
    {growth : Growth} (h : db.createTable name columns numbered growth = .ok db')
    (hother : sameName name other = false) (hsequences : sameName sequences.name other = false)
    (hfree : db.isTaken other = false) : db'.isTaken other = false := by
  obtain ⟨-, -, -, hindexes, -, hothers⟩ := createTable_eq_ok h
  obtain ⟨hnone, hold⟩ := isTaken_eq_false_iff.1 hfree
  exact isTaken_eq_false_iff.2
    ⟨(hothers other hother (.inr hsequences)).trans hnone, hindexes ▸ hold⟩

/-- What a column is that was added, and the table that it was added to. -/
theorem addColumn_admits {c : Column} {u : Table} (h : db.addColumn table c = .ok db')
    (hu : db.table? table = some u) :
    isReserved table = false ∧ u.columns.length < columnLimit ∧ c.texts.any hasNul = false := by
  unfold addColumn at h
  rw [hu] at h
  simp only at h
  split at h
  · cases h
  next hreserved =>
    split at h
    · cases h
    · split at h
      · cases h
      next hfew =>
        split at h
        · cases h
        next hreadable =>
          exact ⟨Bool.not_eq_true _ ▸ hreserved, Nat.lt_of_not_le hfew,
            Bool.not_eq_true _ ▸ hreadable⟩

/-- How an index is named that was made. -/
theorem createIndex_admits {name : String} {unique : Bool} {parts : List KeyPart}
    (h : db.createIndex name unique table parts = .ok db') :
    isReserved name = false ∧ hasNul name = false := by
  unfold createIndex at h
  split at h
  · cases h
  · split at h
    · cases h
    · split at h
      · cases h
      next hreserved =>
        split at h
        · cases h
        · split at h
          · cases h
          next hnamed => exact ⟨Bool.not_eq_true _ ▸ hreserved, Bool.not_eq_true _ ▸ hnamed⟩

/-- **When the index of a column can be made.** -/
theorem createIndex_succeeds {name key : String} (unique : Bool) {u : Table}
    (hu : db.table? table = some u) (htable : isReserved table = false)
    (hname : isReserved name = false ∧ hasNul name = false) (hfree : db.isTaken name = false)
    (hkey : (column? u.columns key).isSome = true) :
    ∃ db', db.createIndex name unique table [.column key] = .ok db' := by
  have hresolved : [KeyPart.column key].find? (fun p => (resolvePart? u p).isNone) = none := by
    obtain ⟨c, hc⟩ := Option.isSome_iff_exists.1 hkey
    simp [resolvePart?, hc]
  unfold createIndex
  simp only [List.isEmpty_cons, Bool.false_eq_true, if_false, List.length_singleton, hname.1,
    hname.2, htable, columnLimit, Nat.reduceLT]
  split
  next hnone =>
    rw [hu] at hnone
    cases hnone
  next v hv =>
    obtain rfl := Option.some.inj (hu.symm.trans hv)
    simp only [hresolved, hfree, Bool.false_eq_true, dite_false]
    exact ⟨_, rfl⟩

/-- A name that an index does not have is free after the index was made if it was free before. -/
theorem isTaken_createIndex {name other : String} {unique : Bool} {parts : List KeyPart}
    (h : db.createIndex name unique table parts = .ok db') (hother : sameName name other = false)
    (hfree : db.isTaken other = false) : db'.isTaken other = false := by
  obtain ⟨htables, -, u, -, -, hindexes⟩ := createIndex_eq_ok h
  obtain ⟨hnone, hold⟩ := isTaken_eq_false_iff.1 hfree
  refine isTaken_eq_false_iff.2 ⟨(table?_of_tables htables other).trans hnone, ?_⟩
  rw [hindexes]
  exact List.forall_mem_cons.2 ⟨hother, hold⟩

/-- **When indexes of columns can be made one after the other**: their names are free, and no two
of them are the same to the database. -/
theorem createIndexes_succeed {name : String → String} {keys : List String} {u : Table}
    (hu : db.table? table = some u) (htable : isReserved table = false)
    (hkeys : ∀ key ∈ keys, (column? u.columns key).isSome = true)
    (hnames : ∀ key ∈ keys, isReserved (name key) = false ∧ hasNul (name key) = false)
    (hfree : ∀ key ∈ keys, db.isTaken (name key) = false)
    (hdistinct : (keys.map fun key => foldName (name key)).Nodup) :
    ∃ db', db.runCommands (keys.map fun key =>
      .createIndex (name key) false table [.column key]) = (.ok (), db') := by
  induction keys generalizing db with
  | nil => exact ⟨db, rfl⟩
  | cons key keys ih =>
      rw [List.forall_mem_cons] at hkeys hnames hfree
      rw [List.map_cons, List.nodup_cons] at hdistinct
      obtain ⟨mid, hmid⟩ := createIndex_succeeds false hu htable hnames.1 hfree.1 hkeys.1
      -- the first index takes its own name only
      have hothers : ∀ other ∈ keys, mid.isTaken (name other) = false := by
        intro other hmem
        refine isTaken_createIndex hmid ?_ (hfree.2 other hmem)
        rw [← Bool.not_eq_true]
        intro hsame
        exact hdistinct.1 (List.mem_map.2 ⟨other, hmem, (sameName_iff.1 hsame).symm⟩)
      have hu' : mid.table? table = some u :=
        (table?_of_tables (createIndex_eq_ok hmid).1 table).trans hu
      obtain ⟨db', hrest⟩ := ih hu' hkeys.2 hnames.2 hothers hdistinct.2
      exact ⟨db', runCommands_cons_eq_ok_iff.2 ⟨mid, hmid, hrest⟩⟩

/-! ### The columns of a table -/

/-- **The columns of a table after a command on it.** -/
theorem columns_run {c : Command} {u : Table} (hc : c.IsOf table) (h : c.run db = .ok db')
    (hu : db.table? table = some u) :
    ∃ u', db'.table? table = some u' ∧ u'.name = u.name ∧
      u'.columns = u.columns ++ c.added?.toList := by
  cases c with
  | createTable name columns numbered growth =>
      obtain rfl : name = table := hc
      obtain ⟨hfree, -⟩ := createTable_eq_ok h
      rw [(isTaken_eq_false_iff.1 hfree).1] at hu
      cases hu
  | addColumn name c =>
      obtain rfl : name = table := hc
      obtain ⟨-, ⟨t, t', ht, ht', hname, hcolumns⟩, -⟩ := addColumn_eq_ok h
      obtain rfl := Option.some.inj (hu.symm.trans ht)
      exact ⟨t', ht', hname, hcolumns⟩
  | createIndex index unique name parts =>
      refine ⟨u, (table?_of_tables (createIndex_eq_ok h).1 table).trans hu, rfl, ?_⟩
      exact (List.append_nil _).symm
  | dropIndex index =>
      refine ⟨u, (table?_of_tables (dropIndex_eq_ok h).1 table).trans hu, rfl, ?_⟩
      exact (List.append_nil _).symm
  | dropTable name => exact hc.elim

/-- **The columns of a table after commands on it**: those that it had, and those that are added. -/
theorem columns_runCommands {cs : List Command} {u : Table} (hcs : ∀ c ∈ cs, c.IsOf table)
    (h : db.runCommands cs = (.ok (), db')) (hu : db.table? table = some u) :
    ∃ u', db'.table? table = some u' ∧ u'.name = u.name ∧
      u'.columns = u.columns ++ cs.filterMap Command.added? := by
  induction cs generalizing db u with
  | nil =>
      cases h
      exact ⟨u, hu, rfl, (List.append_nil _).symm⟩
  | cons c cs ih =>
      rw [List.forall_mem_cons] at hcs
      obtain ⟨mid, hfirst, hrest⟩ := runCommands_cons_eq_ok_iff.1 h
      obtain ⟨v, hv, hname, hcolumns⟩ := columns_run hcs.1 hfirst hu
      obtain ⟨w, hw, hname', hcolumns'⟩ := ih hcs.2 hrest hv
      refine ⟨w, hw, hname'.trans hname, ?_⟩
      rw [hcolumns', hcolumns, List.append_assoc, List.filterMap_cons]
      cases c.added? <;> rfl

/-! ### What commands leave sound -/

/-- **That what became of a table was admitted, and that nothing else changed.**  The table was not
there at first. -/
structure Sound (old db : Database) (table : String) : Prop where
  absent : old.table? table = none
  admitted : ∀ u, db.table? table = some u → isReserved table = false ∧
    u.columns.length ≤ columnLimit ∧ ∀ c ∈ u.columns, c.texts.any hasNul = false
  named : ∀ i ∈ db.indexes, i ∈ old.indexes ∨ isReserved i.name = false ∧ hasNul i.name = false
  indexes : ∀ i ∈ old.indexes, i ∈ db.indexes
  others : ∀ name, sameName table name = false → sameName sequences.name name = false →
    db.table? name = old.table? name

theorem Sound.refl (h : old.table? table = none) : Sound old old table where
  absent := h
  admitted u hu := by
    rw [h] at hu
    cases hu
  named _ hi := .inl hi
  indexes _ hi := hi
  others _ _ _ := rfl

/-- The indexes that were there at first are of other tables. -/
theorem Sound.other_of_mem (h : Sound old db table) {i : Index} (hi : i ∈ old.indexes) :
    sameName i.table table = false := by
  obtain ⟨t, ht, hbelongs, -⟩ := old.rooted i hi
  rw [hbelongs]
  exact table?_eq_none_iff.1 h.absent t ht

/-- **A command on the table leaves it sound**, if it drops no index of another. -/
theorem Sound.run (h : Sound old db table) {c : Command} (hc : c.IsOf table)
    (howns : ∀ n, c.dropped? = some n → db.Owns table n) (hrun : c.run db = .ok db') :
    Sound old db' table where
  absent := h.absent
  admitted u hu := by
    cases c with
    | createTable name columns numbered growth =>
        obtain rfl : name = table := hc
        obtain ⟨-, -, -, -, ⟨v, hv, -, rfl⟩, -⟩ := createTable_eq_ok hrun
        obtain rfl := Option.some.inj (hu.symm.trans hv)
        have hmade := createTable_succeeds_iff.1 ⟨db', hrun⟩
        exact ⟨hmade.unreserved, hmade.few, hmade.readable⟩
    | addColumn name c =>
        obtain rfl : name = table := hc
        obtain ⟨-, ⟨t, t', ht, ht', -, hcolumns⟩, -⟩ := addColumn_eq_ok hrun
        obtain rfl := Option.some.inj (hu.symm.trans ht')
        obtain ⟨hreserved, hfew, hreadable⟩ := addColumn_admits hrun ht
        refine ⟨hreserved, ?_, ?_⟩
        · rw [hcolumns, List.length_append]
          exact hfew
        · rw [hcolumns]
          exact List.forall_mem_append.2
            ⟨(h.admitted t ht).2.2, List.forall_mem_singleton.2 hreadable⟩
    | createIndex index unique name parts =>
        rw [table?_of_tables (createIndex_eq_ok hrun).1] at hu
        exact h.admitted u hu
    | dropIndex index =>
        rw [table?_of_tables (dropIndex_eq_ok hrun).1] at hu
        exact h.admitted u hu
    | dropTable name => exact hc.elim
  named := by
    cases c with
    | createTable name columns numbered growth =>
        obtain ⟨-, -, -, hindexes, -⟩ := createTable_eq_ok hrun
        exact hindexes ▸ h.named
    | addColumn name c => exact (addColumn_eq_ok hrun).1 ▸ h.named
    | createIndex index unique name parts =>
        obtain ⟨-, -, t, -, -, hindexes⟩ := createIndex_eq_ok hrun
        rw [hindexes]
        exact List.forall_mem_cons.2 ⟨.inr (createIndex_admits hrun), h.named⟩
    | dropIndex index =>
        rw [(dropIndex_eq_ok hrun).2.2]
        exact fun i hi => h.named i (List.mem_filter.1 hi).1
    | dropTable name => exact hc.elim
  indexes i hi := by
    refine mem_indexes_run hc hrun (h.indexes i hi) fun n hn => ?_
    -- what is dropped belongs to the table, which the index does not
    rw [← Bool.not_eq_true]
    intro hsame
    have hmine := howns n hn i (h.indexes i hi) hsame
    rw [h.other_of_mem hi] at hmine
    cases hmine
  others name hname hsequences :=
    (table?_run hc hrun hname (.inr hsequences)).trans (h.others name hname hsequences)

/-- **Commands on the table leave it sound**, if they drop no index of another. -/
theorem Sound.runCommands {cs : List Command} (h : Sound old db table)
    (hcs : ∀ c ∈ cs, c.IsOf table ∧ ∀ n, c.dropped? = some n → db.Owns table n)
    (hrun : db.runCommands cs = (.ok (), db')) : Sound old db' table := by
  induction cs generalizing db with
  | nil =>
      cases hrun
      exact h
  | cons c cs ih =>
      rw [List.forall_mem_cons] at hcs
      obtain ⟨⟨hc, howns⟩, hlater⟩ := hcs
      obtain ⟨mid, hfirst, hrest⟩ := runCommands_cons_eq_ok_iff.1 hrun
      refine ih (h.run hc howns hfirst) (fun b hb => ⟨(hlater b hb).1, fun n hn => ?_⟩) hrest
      exact owns_run hc hfirst ((hlater b hb).2 n hn)

/-! ### From what was there at first -/

/-- No table has the name of an index. -/
theorem table?_index {i : Index} (hi : i ∈ db.indexes) : db.table? i.name = none := by
  refine table?_eq_none_iff.2 fun t ht => ?_
  rw [← Bool.not_eq_true, sameName_iff]
  exact (List.nodup_append.1 db.distinct).2.2 _ (List.mem_map_of_mem ht) _ (List.mem_map_of_mem hi)

/-- **The indexes of the table can be made from what was there at first**: their names are not
refused, and nothing has them. -/
theorem Sound.index (h : Sound old db table) {u : Table} (hu : db.table? table = some u)
    {i : Index} (hi : i ∈ db.indexes) (hmine : sameName i.table table = true) :
    (isReserved i.name = false ∧ hasNul i.name = false) ∧ sameName table i.name = false ∧
      old.isTaken i.name = false := by
  have hnew : i ∉ old.indexes := by
    intro hold
    rw [h.other_of_mem hold] at hmine
    cases hmine
  have hnamed : isReserved i.name = false ∧ hasNul i.name = false :=
    (h.named i hi).resolve_left hnew
  have htable : sameName table i.name = false := by
    rw [← Bool.not_eq_true]
    intro hsame
    rw [table?_congr hsame, table?_index hi] at hu
    cases hu
  refine ⟨hnamed, htable, isTaken_eq_false_iff.2 ⟨?_, fun j hj => ?_⟩⟩
  · rw [← h.others i.name htable (sameName_sequences hnamed.1)]
    exact table?_index hi
  · rw [← Bool.not_eq_true]
    intro hsame
    exact hnew (index_eq_of_sameName (h.indexes j hj) hi hsame ▸ hj)

/-- **The table can be made at once from what was there at first**, with the columns that it has
come to have in any order. -/
theorem Sound.makeable (h : Sound old db table) {u : Table} (hu : db.table? table = some u)
    (hname : u.name = table) {columns : List Column} (hcolumns : columns.Perm u.columns)
    (hsome : columns ≠ []) : old.Makeable table columns := by
  obtain ⟨hreserved, hfew, hreadable⟩ := h.admitted u hu
  have hfree : old.isTaken table = false := by
    have hindexes : ∀ i ∈ old.indexes, sameName i.name table = false := by
      intro i hi
      rw [← Bool.not_eq_true]
      intro hsame
      rw [← table?_congr hsame, table?_index (h.indexes i hi)] at hu
      cases hu
    exact isTaken_eq_false_iff.2 ⟨h.absent, hindexes⟩
  have hlength : columns.length ≤ columnLimit := by
    rw [hcolumns.length_eq]
    exact hfew
  have hdistinct : DistinctColumns columns := by
    have hnames := hcolumns.map fun c => foldName c.name
    rw [DistinctColumns, hnames.nodup_iff]
    exact u.distinct
  have hnamed : hasNul table = false := by
    rw [← hname]
    exact u.named
  exact ⟨hsome, hlength, hreserved, fun c hc => hreadable c (hcolumns.mem_iff.1 hc), hfree,
    hdistinct, hnamed⟩

end Database

end Sqlite

end Conform

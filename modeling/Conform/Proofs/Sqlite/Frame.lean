/-
**What a sync leaves alone.**

A sync that is carried out may fail at any of its statements, and what was done before stays.
Whether it fails or not, the other tables keep their columns and their indexes, every table keeps
the columns that it had in their places, and no index is lost but one that is named for a column
that the definition is about.

Main definitions:

* `Database.Extends` — that every table is still there, with the columns that it had;
* `Sqlite.Spares` — **what a sync leaves alone**.

Main results:

* `Database.extends_run`, `Database.mem_indexes_run`, `Database.hasTable_run` — what one command on
  a table keeps, and which tables can be new after it;
* `Database.extends_runCommands`, `Database.mem_indexes_runCommands`,
  `Database.hasTable_runCommands` — the same of commands one after the other;
* `Sqlite.spares_syncOn` — **every sync spares what its definition is not about**.
-/

import Conform.Proofs.Sqlite.Convergence

set_option relaxedAutoImplicit false
set_option autoImplicit false

namespace Conform

namespace Sqlite

namespace Database

variable {db db' : Database} {table name : String}

/-! ### Tables that stay -/

/-- **That every table is still there, with the columns that it had in their places.** -/
def Extends (db db' : Database) : Prop :=
  ∀ u ∈ db.tables, ∃ u' ∈ db'.tables, u'.name = u.name ∧ u.columns <+: u'.columns

theorem Extends.refl (db : Database) : Extends db db :=
  fun u hu => ⟨u, hu, rfl, List.prefix_refl _⟩

theorem Extends.of_tables (h : db'.tables = db.tables) : Extends db db' :=
  fun u hu => ⟨u, h ▸ hu, rfl, List.prefix_refl _⟩

theorem Extends.trans {db'' : Database} (h : Extends db db') (h' : Extends db' db'') :
    Extends db db'' := by
  intro u hu
  obtain ⟨v, hv, hname, hcolumns⟩ := h u hu
  obtain ⟨w, hw, hname', hcolumns'⟩ := h' v hv
  exact ⟨w, hw, hname'.trans hname, hcolumns.trans hcolumns'⟩

theorem Extends.isSome_table? (h : Extends db db') (hthere : (db.table? name).isSome = true) :
    (db'.table? name).isSome = true := by
  obtain ⟨u, hu⟩ := Option.isSome_iff_exists.1 hthere
  obtain ⟨hmem, hname⟩ := table?_eq_some_iff.1 hu
  obtain ⟨u', hu', hspelled, -⟩ := h u hmem
  rw [table?_eq_some_iff.2 ⟨hu', hspelled ▸ hname⟩]
  rfl

/-- What hides introspection goes on hiding it. -/
theorem Extends.hides {sources : List String} (h : Extends db db')
    (hnone : db'.hides sources = false) : db.hides sources = false := by
  refine List.any_eq_false.2 fun source hsource hthere => ?_
  exact List.any_eq_false.1 hnone source hsource (h.isSome_table? hthere)

/-- The table of a name is the table of its own name. -/
theorem table?_name {u : Table} (hu : u ∈ db.tables) : db.table? u.name = some u :=
  table?_eq_some_iff.2 ⟨hu, sameName_self u.name⟩

/-- **A command on a table takes no table away, and no column of one.** -/
theorem extends_run {c : Command} (hc : c.IsOf table) (h : c.run db = .ok db') :
    Extends db db' := by
  cases c with
  | createTable name columns numbered growth =>
      -- the name was free, so every table that was there is another one
      obtain ⟨hfree, -, -, -, -, hothers⟩ := createTable_eq_ok h
      intro u hu
      have hother : sameName name u.name = false := by
        have hname := table?_eq_none_iff.1 (isTaken_eq_false_iff.1 hfree).1 u hu
        rw [← Bool.not_eq_true] at hname ⊢
        exact fun hsame => hname (sameName_comm hsame)
      have hkept := hothers u.name hother (.inl (by rw [table?_name hu]; rfl))
      rw [table?_name hu] at hkept
      exact ⟨u, mem_of_table? hkept, rfl, List.prefix_refl _⟩
  | addColumn name column =>
      obtain ⟨-, ⟨t, t', ht, ht', hname, hcolumns⟩, hothers⟩ := addColumn_eq_ok h
      intro u hu
      rcases Bool.eq_false_or_eq_true (sameName name u.name) with hsame | hother
      · rw [table?_congr hsame, table?_name hu] at ht
        obtain rfl := Option.some.inj ht
        exact ⟨t', mem_of_table? ht', hname, hcolumns ▸ List.prefix_append ..⟩
      · have hkept := hothers u.name hother
        rw [table?_name hu] at hkept
        exact ⟨u, mem_of_table? hkept, rfl, List.prefix_refl _⟩
  | createIndex index unique name parts => exact .of_tables (createIndex_eq_ok h).1
  | dropIndex index => exact .of_tables (dropIndex_eq_ok h).1
  | dropTable name => exact hc.elim

theorem extends_runCommands {cs : List Command} (hcs : ∀ c ∈ cs, c.IsOf table) :
    Extends db (db.runCommands cs).2 := by
  -- a command that fails leaves the database as the ones before it did
  induction cs generalizing db with
  | nil => exact .refl db
  | cons c cs ih =>
      cases hrun : c.run db with
      | error e =>
          rw [runCommands_cons_error hrun]
          exact .refl db
      | ok mid =>
          rw [runCommands_cons_ok hrun]
          exact (extends_run (hcs c (List.mem_cons_self ..)) hrun).trans
            (ih fun b hb => hcs b (List.mem_cons_of_mem _ hb))

/-! ### Tables that are new -/

/-- A table that is there beside the table of sequences was there, or it is that. -/
theorem name_withSequences {u : Table} (h : db.withSequences.table? name = some u) :
    db.table? name = some u ∨ u.name = sequences.name := by
  unfold withSequences at h
  split at h
  next db' hinsert =>
    obtain ⟨-, -, -, ⟨t, ht, hname, -⟩, hothers⟩ := insertTable_eq_ok hinsert
    rcases Bool.eq_false_or_eq_true (sameName sequences.name name) with hsame | hother
    · rw [← table?_congr hsame, ht] at h
      exact .inr (Option.some.inj h ▸ hname)
    · rw [hothers name hother] at h
      exact .inl h
  · exact .inl h

/-- A table is made by putting it in, and the table of sequences after it. -/
theorem insertTable_of_createTable {columns : List Column} {numbered : Bool} {growth : Growth}
    (h : db.createTable name columns numbered growth = .ok db') :
    ∃ mid, db.insertTable name columns growth = .ok mid ∧
      db' = if numbered then mid.withSequences else mid := by
  unfold createTable at h
  split at h
  · cases h
  · split at h
    · cases h
    · split at h
      · cases h
      · split at h
        · cases h
        · cases hinsert : db.insertTable name columns growth with
          | error e => rw [hinsert] at h; cases h
          | ok mid =>
              rw [hinsert] at h
              exact ⟨mid, rfl, (Except.ok.inj h).symm⟩

/-- A table that is there after one was made was there, or it is that or the table of sequences. -/
theorem name_createTable {n : String} {columns : List Column} {numbered : Bool} {growth : Growth}
    (h : db.createTable name columns numbered growth = .ok db') {u : Table}
    (hu : db'.table? n = some u) :
    db.table? n = some u ∨ u.name = name ∨ u.name = sequences.name := by
  obtain ⟨mid, hinsert, rfl⟩ := insertTable_of_createTable h
  obtain ⟨-, -, -, ⟨t, ht, hname, -⟩, hothers⟩ := insertTable_eq_ok hinsert
  have hmid : mid.table? n = some u ∨ u.name = sequences.name := by
    cases numbered with
    | true => exact name_withSequences hu
    | false => exact .inl hu
  rcases hmid with hmid | hsequences
  · rcases Bool.eq_false_or_eq_true (sameName name n) with hsame | hother
    · rw [← table?_congr hsame, ht] at hmid
      exact .inr (.inl (Option.some.inj hmid ▸ hname))
    · rw [hothers n hother] at hmid
      exact .inl hmid
  · exact .inr (.inr hsequences)

/-- **After a command on a table no other table is new**, except that of sequences. -/
theorem hasTable_run {c : Command} (hc : c.IsOf table) (h : c.run db = .ok db')
    (hname : db'.hasTable name = true) :
    db.hasTable name = true ∨ name = table ∨ name = sequences.name := by
  obtain ⟨u, hu, rfl⟩ := hasTable_iff.1 hname
  cases c with
  | createTable made columns numbered growth =>
      obtain rfl : made = table := hc
      rcases name_createTable h hu with hold | hnew
      · exact .inl (hasTable_iff.2 ⟨u, hold, rfl⟩)
      · exact .inr hnew
  | addColumn grown column =>
      obtain ⟨-, ⟨t, t', ht, ht', hspelled, -⟩, hothers⟩ := addColumn_eq_ok h
      refine .inl ?_
      rcases Bool.eq_false_or_eq_true (sameName grown u.name) with hsame | hother
      · rw [← table?_congr hsame, ht'] at hu
        obtain rfl := Option.some.inj hu
        exact hasTable_iff.2 ⟨t, by rw [← table?_congr hsame, ht], hspelled.symm⟩
      · rw [hothers u.name hother] at hu
        exact hasTable_iff.2 ⟨u, hu, rfl⟩
  | createIndex index unique of parts =>
      rw [table?_of_tables (createIndex_eq_ok h).1] at hu
      exact .inl (hasTable_iff.2 ⟨u, hu, rfl⟩)
  | dropIndex index =>
      rw [table?_of_tables (dropIndex_eq_ok h).1] at hu
      exact .inl (hasTable_iff.2 ⟨u, hu, rfl⟩)
  | dropTable _ => exact hc.elim

theorem hasTable_runCommands {cs : List Command} (hcs : ∀ c ∈ cs, c.IsOf table)
    (hname : (db.runCommands cs).2.hasTable name = true) :
    db.hasTable name = true ∨ name = table ∨ name = sequences.name := by
  induction cs generalizing db with
  | nil => exact .inl hname
  | cons c cs ih =>
      cases hrun : c.run db with
      | error e =>
          rw [runCommands_cons_error hrun] at hname
          exact .inl hname
      | ok mid =>
          rw [runCommands_cons_ok hrun] at hname
          rcases ih (fun b hb => hcs b (List.mem_cons_of_mem _ hb)) hname with hmid | hnew
          · exact hasTable_run (hcs c (List.mem_cons_self ..)) hrun hmid
          · exact .inr hnew

/-! ### Indexes that stay -/

/-- **A command on a table takes no index away but the one that it drops.** -/
theorem mem_indexes_run {c : Command} {i : Index} (hc : c.IsOf table) (h : c.run db = .ok db')
    (hi : i ∈ db.indexes) (hkept : ∀ n, c.dropped? = some n → sameName i.name n = false) :
    i ∈ db'.indexes := by
  cases c with
  | createTable name columns numbered growth =>
      obtain ⟨-, -, -, hindexes, -⟩ := createTable_eq_ok h
      rwa [hindexes]
  | addColumn name column => rwa [(addColumn_eq_ok h).1]
  | createIndex index unique name parts =>
      obtain ⟨-, -, t, -, -, hindexes⟩ := createIndex_eq_ok h
      rw [hindexes]
      exact List.mem_cons_of_mem _ hi
  | dropIndex index =>
      rw [(dropIndex_eq_ok h).2.2]
      exact List.mem_filter.2 ⟨hi, by rw [hkept index rfl]; rfl⟩
  | dropTable name => exact hc.elim

theorem mem_indexes_runCommands {cs : List Command} {i : Index} (hcs : ∀ c ∈ cs, c.IsOf table)
    (hi : i ∈ db.indexes)
    (hkept : ∀ c ∈ cs, ∀ n, c.dropped? = some n → sameName i.name n = false) :
    i ∈ (db.runCommands cs).2.indexes := by
  induction cs generalizing db with
  | nil => exact hi
  | cons c cs ih =>
      cases hrun : c.run db with
      | error e =>
          rw [runCommands_cons_error hrun]
          exact hi
      | ok mid =>
          rw [runCommands_cons_ok hrun]
          exact ih (fun b hb => hcs b (List.mem_cons_of_mem _ hb))
            (mem_indexes_run (hcs c (List.mem_cons_self ..)) hrun hi
              (hkept c (List.mem_cons_self ..)))
            fun b hb => hkept b (List.mem_cons_of_mem _ hb)

end Database

open Database

variable {db : Database} {t : Definition}

/-! ### A sync -/

/-- **What a sync leaves alone.** -/
structure Spares (db db' : Database) (t : Definition) : Prop where
  /-- The other tables keep their columns and their indexes. -/
  others : ∀ u ∈ db.tables, u.name ≠ t.table → Keeps db db' u.name
  /-- Every table keeps the columns that it had, in their places. -/
  columns : Extends db db'
  /-- Every index stays that is not named for a column that is indexed always or declared. -/
  indexes : ∀ i ∈ db.indexes, (∀ key ∈ systemIndexKeys ++ t.fields.map (·.1),
    i.name ≠ indexName t.table key) → i ∈ db'.indexes

theorem extends_syncOn (db : Database) (o : Options) (t : Definition) :
    Extends db (syncOn db o t).2 := by
  rcases syncOn_snd db o t with hsame | ⟨fields, p, -, hplan, hrun⟩
  · rw [hsame]
    exact .refl db
  · rw [hrun]
    exact extends_runCommands fun c hc => (isOf_of_planOn hplan c hc).1

/-- **Every sync spares what its definition is not about**, also when it fails. -/
theorem spares_syncOn (db : Database) (o : Options) (t : Definition) :
    Spares db (syncOn db o t).2 t where
  others u hu hne := keeps_syncOn hne.symm (hasTable_iff.2 ⟨u, table?_name hu, rfl⟩) o
  columns := extends_syncOn db o t
  indexes i hi hname := by
    rcases syncOn_snd db o t with hsame | ⟨fields, p, hread, hplan, hrun⟩
    · rwa [hsame]
    rw [hrun]
    refine mem_indexes_runCommands (fun c hc => (isOf_of_planOn hplan c hc).1) hi
      fun c hc n hn => ?_
    -- an index that is dropped is named for a declared column, and it was there under that name
    obtain ⟨st, hst, hcommand⟩ := List.mem_filterMap.1 hc
    obtain ⟨c', hc', -, hdropped⟩ := commands_of_planOn hplan st hst
    obtain rfl : c = c' := Option.some.inj (hcommand.symm.trans hc')
    obtain ⟨key, hdrop⟩ := hdropped n hn
    obtain ⟨-, hnamed, ⟨f, hf, hkey, -⟩, j, hj, hjname, -⟩ := (drop_mem_planOn_iff hplan).1 hdrop
    rw [← Bool.not_eq_true]
    intro hsame
    obtain rfl : i = j := index_eq_of_sameName hi hj (by rw [hjname]; exact hsame)
    refine hname key (List.mem_append_right _ ?_) (hjname.trans hnamed)
    rw [← keys_of_readFields hread]
    exact List.mem_map.2 ⟨f, hf, hkey⟩

end Sqlite

end Conform

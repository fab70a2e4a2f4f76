/-
**A sync that succeeds does to the report what its plan does to a snapshot.**

The statements of a plan are run one after the other.  The columns come first, so when an index is
made its column is there, spelled as the index names it; and since the columns of a table differ
also in letter case, no two index changes have names that are the same to the database.  So every
index change finds the indexes of its name as the plan found them.

Main definitions:

* `Sqlite.Ready` — that index changes can be run without disturbing one another.

Main results:

* `Sqlite.runCommands_append_eq_ok_iff` — a run is the run of its parts;
* `Sqlite.reported?_adds`, `Sqlite.reported?_changes` — the effect of new columns and of index
  changes;
* `Sqlite.reported?_planLiveTable`, `Sqlite.reported?_planNewTable` — **the effect of a plan that
  is carried out**;
* `Sqlite.replan_of_planOn` — after a sync that succeeds the next plan is idle.
-/

import Conform.Proofs.Sqlite.Sync

set_option relaxedAutoImplicit false
set_option autoImplicit false

namespace Conform

namespace Sqlite

variable {db db' : Database} {o : Options} {t : Definition} {fields : List Field} {p : Planned}
  {s : Snapshot} {table : String}

/-! ### Runs -/

/-- **A run succeeds when its parts do**, one after the other. -/
theorem runCommands_append_eq_ok_iff {cs cs' : List Command} :
    db.runCommands (cs ++ cs') = (.ok (), db') ↔
      ∃ mid, db.runCommands cs = (.ok (), mid) ∧ mid.runCommands cs' = (.ok (), db') := by
  induction cs generalizing db with
  | nil => simp
  | cons c cs ih =>
      rw [List.cons_append]
      cases hrun : c.run db with
      | error e => simp [Database.runCommands_cons_error hrun]
      | ok next => rw [Database.runCommands_cons_ok hrun, Database.runCommands_cons_ok hrun, ih]

theorem runCommands_cons_eq_ok_iff {c : Command} {cs : List Command} :
    db.runCommands (c :: cs) = (.ok (), db') ↔
      ∃ mid, c.run db = .ok mid ∧ mid.runCommands cs = (.ok (), db') := by
  cases hrun : c.run db with
  | error e => simp [Database.runCommands_cons_error hrun]
  | ok next => simp [Database.runCommands_cons_ok hrun]

theorem commandsOf_append (sts sts' : List Statement) :
    commandsOf (sts ++ sts') = commandsOf sts ++ commandsOf sts' := List.filterMap_append

theorem commandsOf_cons {st : Statement} {c : Command} (h : st.command? = some c)
    (sts : List Statement) : commandsOf (st :: sts) = c :: commandsOf sts := by
  rw [commandsOf, List.filterMap_cons, h]
  rfl

/-! ### New columns -/

/-- **New columns are added to the report**, and the indexes stay. -/
theorem reported?_adds {columns : List Conform.Column}
    (h : db.runCommands (commandsOf (columns.map fun c => .alterTable table (.addColumn c))) =
      (.ok (), db')) (hs : db.reported? table = some s) :
    db'.indexes = db.indexes ∧ (db.hasTable table = true → db'.hasTable table = true) ∧
      db'.reported? table =
        some (s.applyAll reporting (columns.map fun c => .alterTable table (.addColumn c))) := by
  induction columns generalizing db s with
  | nil =>
      cases h
      exact ⟨rfl, fun hthere => hthere, hs⟩
  | cons c columns ih =>
      rw [List.map_cons, commandsOf_cons rfl, runCommands_cons_eq_ok_iff] at h
      obtain ⟨mid, hadd, hrest⟩ := h
      obtain ⟨hindexes, ⟨u, u', hu, hu', hname, -⟩, -⟩ := Database.addColumn_eq_ok hadd
      obtain ⟨hindexes', hthere, hreported⟩ := ih hrest (Database.reported?_addColumn hadd hs)
      refine ⟨hindexes'.trans hindexes, fun hold => hthere ?_, hreported⟩
      obtain ⟨v, hv, hexact⟩ := Database.hasTable_iff.1 hold
      obtain rfl : u = v := Option.some.inj (hu.symm.trans hv)
      exact Database.hasTable_iff.2 ⟨u', hu', hname.trans hexact⟩

/-! ### Index changes -/

/-- **Index changes that do not disturb one another**: the index of each new name is of a column
that is there, no other index has the name of one that is dropped in other letters, and no two of
the names are the same to the database. -/
structure Ready (db : Database) (table : String) (changes : List IndexChange) : Prop where
  columns : ∀ a ∈ changes, ∀ u, db.table? table = some u → a.key ∈ u.columns.map (·.name)
  spelled : ∀ a ∈ changes, a.verb = .drop → ∀ i ∈ db.indexes,
    sameName i.name a.index = true → i.name = a.index
  distinct : (changes.map fun a => foldName a.index).Nodup

/-- After an index change the others are still ready. -/
theorem Ready.tail {a : IndexChange} {changes : List IndexChange} {c : Command}
    (h : Ready db table (a :: changes)) (hc : (a.statement table).command? = some c)
    (hrun : c.run db = .ok db') : Ready db' table changes := by
  obtain ⟨hcolumns, hspelled, hdistinct⟩ := h
  rw [List.map_cons, List.nodup_cons] at hdistinct
  obtain ⟨verb, index, key⟩ := a
  have hspelled' : ∀ b ∈ changes, b.verb = .drop → ∀ i ∈ db.indexes,
      sameName i.name b.index = true → i.name = b.index :=
    fun b hb => hspelled b (List.mem_cons_of_mem _ hb)
  cases verb with
  | create =>
      obtain rfl := Option.some.inj hc
      obtain ⟨htables, -, u, -, -, hindexes⟩ := Database.createIndex_eq_ok hrun
      refine ⟨fun b hb v hv => ?_, fun b hb hverb i hi hname => ?_, hdistinct.2⟩
      · rw [Database.table?_of_tables htables] at hv
        exact hcolumns b (List.mem_cons_of_mem _ hb) v hv
      · rw [hindexes] at hi
        rcases List.mem_cons.1 hi with rfl | hi
        · exact absurd (List.mem_map.2 ⟨b, hb, (sameName_iff.1 hname).symm⟩) hdistinct.1
        · exact hspelled' b hb hverb i hi hname
  | drop =>
      obtain rfl := Option.some.inj hc
      obtain ⟨htables, -, hindexes⟩ := Database.dropIndex_eq_ok hrun
      refine ⟨fun b hb v hv => ?_, fun b hb hverb i hi hname => ?_, hdistinct.2⟩
      · rw [Database.table?_of_tables htables] at hv
        exact hcolumns b (List.mem_cons_of_mem _ hb) v hv
      · rw [hindexes] at hi
        exact hspelled' b hb hverb i (List.mem_filter.1 hi).1 hname

/-- **An index change that is ready changes the report as it changes a snapshot**, and the tables
stay. -/
theorem Ready.reported?_head {a : IndexChange} {changes : List IndexChange} {c : Command}
    (h : Ready db table (a :: changes)) (hc : (a.statement table).command? = some c)
    (hrun : c.run db = .ok db') (hs : db.reported? table = some s) :
    db'.tables = db.tables ∧
      db'.reported? table = some (s.apply reporting (a.statement table)) := by
  obtain ⟨verb, index, key⟩ := a
  cases verb with
  | create =>
      obtain rfl := Option.some.inj hc
      exact ⟨(Database.createIndex_eq_ok hrun).1, Database.reported?_createIndex hrun hs
        (h.columns _ (List.mem_cons_self ..))⟩
  | drop =>
      obtain rfl := Option.some.inj hc
      exact ⟨(Database.dropIndex_eq_ok hrun).1, Database.reported?_dropIndex hrun hs
        (h.spelled _ (List.mem_cons_self ..) rfl)⟩

/-- **Index changes change the report as they change a snapshot**, and the tables stay. -/
theorem reported?_changes {changes : List IndexChange} (hready : Ready db table changes)
    (h : db.runCommands (commandsOf (changes.map (·.statement table))) = (.ok (), db'))
    (hs : db.reported? table = some s) :
    db'.tables = db.tables ∧
      db'.reported? table = some (s.applyAll reporting (changes.map (·.statement table))) := by
  induction changes generalizing db s with
  | nil =>
      cases h
      exact ⟨rfl, hs⟩
  | cons a changes ih =>
      obtain ⟨c, hc, -⟩ := command?_indexChange table a
      rw [List.map_cons, commandsOf_cons hc, runCommands_cons_eq_ok_iff] at h
      obtain ⟨mid, hrun, hrest⟩ := h
      -- the first change does its part, and it leaves the others ready
      have hstep := hready.reported?_head hc hrun hs
      obtain ⟨htables, hreported⟩ := ih (hready.tail hc hrun) hrest hstep.2
      exact ⟨htables.trans hstep.1, hreported⟩

/-- The names of two indexes of a table are the same to the database only if their columns are. -/
theorem foldName_indexName {key key' : String}
    (h : foldName (indexName table key) = foldName (indexName table key')) :
    foldName key = foldName key' := by
  have hlower : ∀ name : String, (foldName name).toList = Text.lower name.toList :=
    fun _ => String.toList_ofList
  have hlist := congrArg String.toList h
  rw [hlower, hlower, toList_indexName, toList_indexName] at hlist
  simp only [Text.lower, List.map_append] at hlist
  refine String.ext ?_
  rw [hlower, hlower]
  exact List.append_cancel_left hlist

/-- **Index changes are ready** when their columns are different columns that are reported, and the
indexes that are dropped are there. -/
theorem ready_of_reported {changes : List IndexChange} (hs : db.reported? table = some s)
    (hnamed : ∀ a ∈ changes, a.index = indexName table a.key)
    (hkeys : (changes.map (·.key)).Nodup)
    (hcolumns : ∀ a ∈ changes, s.columns.contains a.key = true)
    (hdropped : ∀ a ∈ changes, a.verb = .drop → ∃ i ∈ db.indexes, i.name = a.index) :
    Ready db table changes := by
  obtain ⟨u, hu, hreport, -⟩ := Database.reported?_eq_some_iff.1 hs
  have hthere : ∀ a ∈ changes, a.key ∈ u.columns.map (·.name) :=
    fun a ha => mem_of_reportedColumns? hreport (hcolumns a ha)
  refine ⟨fun a ha v hv => ?_, fun a ha hverb i hi hname => ?_, ?_⟩
  · obtain rfl : u = v := Option.some.inj (hu.symm.trans hv)
    exact hthere a ha
  · obtain ⟨j, hj, hspelled⟩ := hdropped a ha hverb
    have hsame : i = j := Database.index_eq_of_sameName hi hj (by rw [hspelled]; exact hname)
    rw [hsame, hspelled]
  · -- columns that are the same to the database are one column
    refine List.pairwise_map.2 ((List.pairwise_map.1 hkeys).imp_of_mem ?_)
    intro a b ha hb hne hsame
    rw [hnamed a ha, hnamed b hb] at hsame
    exact hne (u.name_eq (hthere a ha) (hthere b hb) (foldName_indexName hsame))

/-- **The index changes for a report are ready** once the columns of the fields are there, if the
system columns that were reported still are, and the indexes are as they were. -/
theorem ready_indexChanges {mid : Database} {s' : Snapshot} (hfields : Declared .sqlite fields)
    (hs : db.reported? table = some s) (hmid : mid.reported? table = some s')
    (hindexes : mid.indexes = db.indexes) (hadded : ∀ f ∈ fields, s'.columns.contains f.key = true)
    (hsystem : ∀ key ∈ systemIndexKeys,
      s.columns.contains key = true → s'.columns.contains key = true) :
    Ready mid table (indexChanges table s (fields.map (·.column .sqlite))) := by
  refine ready_of_reported hmid (fun a ha => index_of_mem_indexChanges ha) ?_ ?_ ?_
  · rw [indexChanges, List.map_append]
    exact (indexKeys_nodup hfields).sublist
      (keys_systemIndexChanges.append (keys_fieldIndexChanges _))
  · intro a ha
    rcases List.mem_append.1 ha with ha | ha
    · obtain ⟨key, hkey, rfl⟩ := List.mem_map.1 ha
      obtain ⟨hkey, hcolumn⟩ := List.mem_filter.1 hkey
      exact hsystem key hkey (Bool.and_eq_true_iff.1 hcolumn).1
    · obtain ⟨c, hc, hchange⟩ := List.mem_filterMap.1 ha
      obtain ⟨f, hf, rfl⟩ := List.mem_map.1 hc
      rw [(of_fieldIndexChange? hchange).1]
      exact hadded f hf
  · -- an index that is dropped is reported, so it is there
    rintro ⟨verb, n, key⟩ ha rfl
    obtain ⟨-, -, hindex⟩ := drop_mem_indexChanges_iff.1 ha
    obtain ⟨-, i, hi, hname, -⟩ := (Database.indexes_reported_iff hs).1 hindex
    exact ⟨i, hindexes ▸ hi, hname⟩

/-! ### The effect of a sync -/

/-- **The effect of a plan for a table that is there.** -/
theorem reported?_planLiveTable (hfields : Declared .sqlite fields)
    (hs : db.reported? table = some s) (hplan : planLiveTable .sqlite o table fields s = .ok p)
    (hrun : db.runCommands (commandsOf p.plan.statements) = (.ok (), db')) :
    (db.hasTable table = true → db'.hasTable table = true) ∧
      db'.reported? table = some (s.applyAll reporting p.plan.statements) := by
  have hsettled := fun f hf => settled_of_planLiveTable hfields
    (fun g hg => reporting_shows_field hfields hg) hplan (f := f) hf
  have hothers := fun key (hkey : ∀ f ∈ fields, f.key ≠ key) =>
    getElem?_columns_of_other (r := reporting) hplan hkey
  have hadds : (missing s fields).map (fun f => Statement.alterTable table
        (.addColumn (f.column .sqlite))) =
      ((missing s fields).map (·.column .sqlite)).map fun c =>
        .alterTable table (.addColumn c) := by
    rw [List.map_map]
    rfl
  rw [statements_planLiveTable hplan, hadds] at hrun hsettled hothers ⊢
  rw [commandsOf_append, runCommands_append_eq_ok_iff] at hrun
  simp only [Snapshot.applyAll_append, Snapshot.columns_applyAll_changes] at hsettled hothers
  rw [Snapshot.applyAll_append]
  obtain ⟨mid, hfirst, hsecond⟩ := hrun
  obtain ⟨hindexes, hthere, hmid⟩ := reported?_adds hfirst hs
  have hready : Ready mid table (indexChanges table s (fields.map (·.column .sqlite))) := by
    refine ready_indexChanges hfields hs hmid hindexes (fun f hf => ?_) fun key hkey hcolumn => ?_
    · obtain ⟨live, hlive, -⟩ := hsettled f hf
      rw [contains_iff, hlive]
      rfl
    · have hother := hothers key fun f hf e => hfields.free f hf (e ▸ systemIndexKeys_subset hkey)
      rw [contains_iff, hother, ← contains_iff]
      exact hcolumn
  obtain ⟨htables, hreported⟩ := reported?_changes hready hsecond hmid
  refine ⟨fun hold => ?_, hreported⟩
  have hmidThere := hthere hold
  rwa [Database.hasTable, htables]

/-- **The effect of a plan for a new table.** -/
theorem reported?_planNewTable (hfields : Declared .sqlite fields) (comment : Option String)
    (hrun : db.runCommands
      (commandsOf (planNewTable .sqlite o table fields comment).plan.statements) = (.ok (), db')) :
    db'.hasTable table = true ∧ db'.reported? table = some
      (s.applyAll reporting (planNewTable .sqlite o table fields comment).plan.statements) := by
  rw [statements_planNewTable_sqlite] at hrun ⊢
  rw [commandsOf_cons rfl, runCommands_cons_eq_ok_iff] at hrun
  rw [Snapshot.applyAll_cons]
  obtain ⟨mid, hfirst, hsecond⟩ := hrun
  have hmid : mid.reported? table = some (s.apply reporting
      (.createTable table (fields.map (·.column .sqlite)) comment)) :=
    Database.reported?_createTable hfirst
  obtain ⟨-, -, -, -, ⟨u, hu, hname, -⟩, -⟩ := Database.createTable_eq_ok hfirst
  have hready : Ready mid table
      ((createIndexKeys (fields.map (·.column .sqlite))).map (createIndexOf table)) := by
    refine ready_of_reported hmid ?_ ?_ ?_ ?_
    · intro a ha
      obtain ⟨key, _, rfl⟩ := List.mem_map.1 ha
      rfl
    · rw [List.map_map]
      exact (List.map_id _).symm ▸ createIndexKeys_nodup hfields
    · intro a ha
      obtain ⟨key, hkey, rfl⟩ := List.mem_map.1 ha
      change (reporting.newTable (fields.map (·.column .sqlite))).contains key = true
      rw [Reporting.newTable, Std.ExtTreeMap.contains_ofList, List.contains_iff_mem,
        List.map_append, List.map_map, List.map_map]
      rcases List.mem_append.1 hkey with hkey | hkey
      · exact List.mem_append_left _ (systemIndexKeys_subset hkey)
      · obtain ⟨c, hc, rfl⟩ := List.mem_map.1 hkey
        exact List.mem_append_right _ (List.mem_map.2 ⟨c, (List.mem_filter.1 hc).1, rfl⟩)
    · intro a ha hverb
      obtain ⟨key, _, rfl⟩ := List.mem_map.1 ha
      cases hverb
  obtain ⟨htables, hreported⟩ := reported?_changes hready hsecond hmid
  refine ⟨?_, hreported⟩
  have hmidThere : mid.hasTable table = true := Database.hasTable_iff.2 ⟨u, hu, hname⟩
  rwa [Database.hasTable, htables]

/-- **After a sync that succeeds its table is there, and a plan for its report is idle.** -/
theorem replan_of_planOn (hread : t.readFields .sqlite = .ok fields)
    (hplan : planOn db o t fields = .ok p)
    (hrun : db.runCommands (commandsOf p.plan.statements) = (.ok (), db')) :
    db'.hasTable t.table = true ∧ ∃ s p', db'.reported? t.table = some s ∧
      planLiveTable .sqlite o t.table fields s = .ok p' ∧ p'.IsIdle := by
  have hfields := declared_of_readFields hread
  have hshows : ∀ f ∈ fields, reporting.Shows (f.column .sqlite) :=
    fun f hf => reporting_shows_field hfields hf
  rcases planOn_eq_ok_iff.1 hplan with ⟨-, rfl⟩ | ⟨hthere, -, s, hs, hlive⟩
  · obtain ⟨hthere', hreported⟩ := reported?_planNewTable (s := ⟨∅, ∅⟩) hfields t.comment hrun
    obtain ⟨p', hp', hidle⟩ := replan_new hfields hshows t.comment
    exact ⟨hthere', _, p', hreported, hp', hidle⟩
  · -- the effect of the plan on the report is its effect on a snapshot, where planning is settled
    obtain ⟨hthere', hreported⟩ := reported?_planLiveTable hfields hs hlive hrun
    obtain ⟨p', hp', hidle⟩ := replan_live hfields hshows hlive
    exact ⟨hthere' hthere, _, p', hreported, hp', hidle⟩

end Sqlite

end Conform

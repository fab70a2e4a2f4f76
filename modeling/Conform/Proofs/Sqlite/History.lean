/-
**The schema of a table does not depend on its history.**

A table is made by its first definition, and later definitions are synced one after the other.  Each
of them keeps the fields of the one before it, with their types, lengths and defaults; it may add
fields, put them in another order, and say of any of them whether it is to be indexed.  Then the
table is reported as if its last definition had been synced alone from the beginning, and that sync
would have succeeded.

What is true after every sync of a history is `Sqlite.Built`.  It says what the table is made of and
how it is reported, both in terms of the last fields alone; of the syncs before it remembers only
that what they made was admitted.

Main definitions:

* `Sqlite.Retains`, `Sqlite.Upgrades` — that fields are kept, and that a definition keeps those of
  another;
* `Sqlite.History` — **definitions that are synced one after the other**;
* `Sqlite.Built` — **what a history makes of a table**.

Main results:

* `Sqlite.Grows.upgrade`, `Sqlite.Grows.unique` — growth by fields that are kept is growth from a
  bare table by the last fields, and there is one report only to which a table can grow;
* `Sqlite.built_of_absent`, `Sqlite.Built.upgrade`, `Sqlite.built_of_history` — the invariant holds
  at first, after one sync more, and after every history;
* `Sqlite.Built.remake` — what a history makes of a table can be made at once;
* `Sqlite.sync_of_history` — **the last definition synced alone succeeds, and the table is reported
  as it is after its history**.
-/

import Conform.Proofs.Sqlite.Growth
import Conform.Proofs.Sqlite.Remaking
import Mathlib.Data.List.Nodup

set_option relaxedAutoImplicit false
set_option autoImplicit false

namespace Conform

namespace Sqlite

open Database

variable {db db' old : Database} {o : Options} {t : Definition} {fields fields' : List Field}
  {p : Planned} {table : String} {s s' s'' : Snapshot}

/-! ### Fields that are kept -/

/-- **That fields are kept**: each is still there, with its type, its length and its default. -/
def Retains (fields fields' : List Field) : Prop :=
  ∀ f ∈ fields, ∃ f' ∈ fields', f'.key = f.key ∧
    (f'.column .sqlite).type = (f.column .sqlite).type ∧ f'.rule.default = f.rule.default

instance (fields fields' : List Field) : Decidable (Retains fields fields') :=
  inferInstanceAs (Decidable (∀ f ∈ fields, ∃ f' ∈ fields', f'.key = f.key ∧
    (f'.column .sqlite).type = (f.column .sqlite).type ∧ f'.rule.default = f.rule.default))

/-- A field that is kept stands for the column that it stood for. -/
theorem Retains.column (h : Retains fields fields') {f : Field} (hf : f ∈ fields) :
    ∃ f' ∈ fields', f'.key = f.key ∧ fresh f' = fresh f ∧
      Column.ofWanted (f'.column .sqlite) = Column.ofWanted (f.column .sqlite) := by
  obtain ⟨f', hf', hkey, htype, hdefault⟩ := h f hf
  have hlength : f'.rule.length = f.rule.length := by
    rw [← Declared.length_column (d := .sqlite) f', htype, Declared.length_column]
  refine ⟨f', hf', hkey, ?_, ?_⟩
  · rw [fresh, fresh, htype, hlength, hdefault]
  · rw [Column.ofWanted, Column.ofWanted, htype]
    simp only [Field.column, hkey, hdefault]

/-- The columns of a new table: those of the system and those of the fields. -/
theorem mem_newColumns_iff {c : Column} :
    c ∈ newColumns (fields.map (·.column .sqlite)) ↔
      (∃ k ∈ systemColumns, Column.ofSystem k = c) ∨
        ∃ f ∈ fields, Column.ofWanted (f.column .sqlite) = c := by
  rw [newColumns, List.mem_append, List.mem_map, List.map_map, List.mem_map]
  rfl

theorem names_newColumns (fields : List Field) :
    (newColumns (fields.map (·.column .sqlite))).map (·.name) =
      reservedKeys ++ fields.map (·.key) := by
  have hsystem : (systemColumns.map Column.ofSystem).map (·.name) = reservedKeys := by decide
  rw [newColumns, List.map_append, hsystem, List.map_map, List.map_map]
  rfl

theorem nodup_newColumns (hfields : Declared .sqlite fields) :
    (newColumns (fields.map (·.column .sqlite))).Nodup := by
  refine List.Nodup.of_map (·.name) ?_
  rw [names_newColumns]
  exact newTable_nodup hfields

/-- The keys that get an index are names of columns of a new table. -/
theorem mem_names_newColumns {key : String}
    (h : key ∈ createIndexKeys (fields.map (·.column .sqlite))) :
    key ∈ (newColumns (fields.map (·.column .sqlite))).map (·.name) := by
  rw [names_newColumns]
  rcases mem_createIndexKeys_iff.1 h with hsystem | ⟨f, hf, rfl, -⟩
  · exact List.mem_append_left _ (systemIndexKeys_subset hsystem)
  · exact List.mem_append_right _ (List.mem_map_of_mem hf)

/-! ### Reports that grow -/

/-- The columns that are reported stay when a table grows. -/
theorem Grows.contains (h : Grows table fields s s') {key : String}
    (hkey : s.columns.contains key = true) : s'.columns.contains key = true := by
  rw [contains_iff] at hkey ⊢
  rw [h.columns]
  obtain ⟨live, hlive⟩ := Option.isSome_iff_exists.1 hkey
  rw [hlive]
  rfl

/-- **The indexes of a table that grew from a bare one**: one for each key that gets one. -/
theorem Grows.indexes_bare (h : Grows table fields bareTable s) {name : String}
    {columns : List String} :
    s.indexes[name]? = some columns ↔
      ∃ key ∈ createIndexKeys (fields.map (·.column .sqlite)),
        name = indexName table key ∧ columns = [key] := by
  have hempty : bareTable.indexes[name]? = none := Std.ExtTreeMap.getElem?_empty
  rw [h.indexes, hempty]
  constructor
  · rintro (⟨hsome, -⟩ | ⟨-, key, hname, hcolumns, hwanted⟩)
    · cases hsome
    · exact ⟨key, mem_createIndexKeys_iff.2 (hwanted.imp_left And.left), hname, hcolumns⟩
  · rintro ⟨key, hkey, hname, hcolumns⟩
    refine .inr ⟨rfl, key, hname, hcolumns, ?_⟩
    exact (mem_createIndexKeys_iff.1 hkey).imp_left fun hkey => ⟨hkey, contains_bareTable hkey⟩

/-- **There is one report only to which a table can grow.** -/
theorem Grows.unique (h : Grows table fields s s') (h' : Grows table fields s s'') : s' = s'' := by
  have hcolumns : s'.columns = s''.columns :=
    Std.ExtTreeMap.ext_getElem? fun key => (h.columns key).trans (h'.columns key).symm
  have hindexes : s'.indexes = s''.indexes :=
    Std.ExtTreeMap.ext_getElem? fun name => Option.ext fun columns =>
      (h.indexes name columns).trans (h'.indexes name columns).symm
  exact congrArg₂ Snapshot.mk hcolumns hindexes

/-- The columns of a table that grew by fields and then by fields that keep them. -/
theorem Grows.columns_upgrade (hfields : Declared .sqlite fields)
    (hfields' : Declared .sqlite fields') (hkept : Retains fields fields')
    (h : Grows table fields bareTable s) (h' : Grows table fields' s s') (key : String) :
    s'.columns[key]? =
      bareTable.columns[key]?.or ((fields'.find? (·.key == key)).map fresh) := by
  rw [h'.columns, h.columns, Option.or_assoc]
  refine congrArg (Option.or _) ?_
  by_cases hkey : ∃ f ∈ fields, f.key = key
  · obtain ⟨f, hf, rfl⟩ := hkey
    obtain ⟨f', hf', hsame, hfresh, -⟩ := hkept.column hf
    rw [hfields.find?_key hf, ← hsame, hfields'.find?_key hf', Option.map_some, Option.map_some,
      hfresh]
    rfl
  · have hnone : fields.find? (·.key == key) = none :=
      List.find?_eq_none.2 fun f hf hsame => hkey ⟨f, hf, by simpa using hsame⟩
    rw [hnone, Option.map_none, Option.none_or]

/-- **A table that grew by fields and then by fields that keep them** grew by the later ones. -/
theorem Grows.upgrade (hfields : Declared .sqlite fields) (hfields' : Declared .sqlite fields')
    (hkept : Retains fields fields') (h : Grows table fields bareTable s)
    (h' : Grows table fields' s s') : Grows table fields' bareTable s' where
  columns := h.columns_upgrade hfields hfields' hkept h'
  indexes name columns := by
    have hempty : bareTable.indexes[name]? = none := Std.ExtTreeMap.getElem?_empty
    rw [h'.indexes, hempty]
    constructor
    · rintro (⟨hsome, hundropped⟩ | ⟨-, key, hname, hcolumns, hwanted⟩)
      · -- an index that stayed is of a system column, or its field is still to be indexed
        obtain ⟨key, hkey, hname, hcolumns⟩ := h.indexes_bare.1 hsome
        refine .inr ⟨rfl, key, hname, hcolumns, ?_⟩
        rcases mem_createIndexKeys_iff.1 hkey with hsystem | ⟨f, hf, rfl, -⟩
        · exact .inl ⟨hsystem, contains_bareTable hsystem⟩
        · obtain ⟨f', hf', hsame, -⟩ := hkept f hf
          refine .inr ⟨f', hf', hsame, ?_⟩
          rw [← Bool.not_eq_false]
          intro hindexed
          exact hundropped ⟨f', hf', hindexed, hsame ▸ hname, hsame ▸ hcolumns⟩
      · refine .inr ⟨rfl, key, hname, hcolumns, ?_⟩
        exact hwanted.imp_left fun hsystem => ⟨hsystem.1, contains_bareTable hsystem.1⟩
    · rintro (⟨hsome, -⟩ | ⟨-, key, hname, hcolumns, hwanted⟩)
      · cases hsome
      cases hindex : s.indexes[name]? with
      | none =>
          refine .inr ⟨rfl, key, hname, hcolumns, hwanted.imp_left fun hsystem => ?_⟩
          exact ⟨hsystem.1, h.contains hsystem.2⟩
      | some columns' =>
          obtain ⟨key', -, hname', hcolumns'⟩ := h.indexes_bare.1 hindex
          obtain rfl : key' = key := indexName_inj (hname'.symm.trans hname)
          obtain rfl : columns' = columns := hcolumns'.trans hcolumns.symm
          refine .inl ⟨rfl, ?_⟩
          -- it is not dropped: the only field that it can be of is to be indexed
          rintro ⟨g, hg, hindexed, hnamed, -⟩
          obtain rfl : g.key = key' := indexName_inj (hnamed.symm.trans hname)
          rcases hwanted with ⟨hsystem, -⟩ | ⟨f', hf', hsame, hindexed'⟩
          · exact hfields'.free g hg (systemIndexKeys_subset hsystem)
          · rw [hfields'.eq_of_key hf' hg hsame, hindexed] at hindexed'
            cases hindexed'

/-! ### What a history makes of a table -/

/-- **What a history makes of a table**: all of it was admitted, its columns are those of the system
and those of the last fields, and it is reported as a bare table that grew by these. -/
structure Built (old db : Database) (table : String) (fields : List Field) : Prop where
  sound : Sound old db table
  columns : ∃ u, db.table? table = some u ∧ u.name = table ∧
    ∀ c, c ∈ u.columns ↔ c ∈ newColumns (fields.map (·.column .sqlite))
  report : ∃ s, db.reported? table = some s ∧ Grows table fields bareTable s

theorem Built.hasTable (h : Built old db table fields) : db.hasTable table = true := by
  obtain ⟨u, hu, hname, -⟩ := h.columns
  exact hasTable_iff.2 ⟨u, hu, hname⟩

/-- Index changes add no column. -/
theorem added_changes (table : String) (changes : List IndexChange) :
    (commandsOf (changes.map (·.statement table))).filterMap Command.added? = [] := by
  induction changes with
  | nil => rfl
  | cons a changes ih =>
      obtain ⟨verb, index, key⟩ := a
      cases verb <;> exact ih

/-- New columns are those that are added. -/
theorem added_adds (table : String) (fields : List Field) :
    (commandsOf (fields.map fun f =>
      .alterTable table (.addColumn (f.column .sqlite)))).filterMap Command.added? =
        fields.map fun f => Column.ofWanted (f.column .sqlite) := by
  induction fields with
  | nil => rfl
  | cons f fields ih => exact congrArg (Column.ofWanted (f.column .sqlite) :: ·) ih

/-- **The first sync of a table builds it.** -/
theorem built_of_absent (hfields : Declared .sqlite fields) (habsent : db.hasTable t.table = false)
    (hplan : planOn db o t fields = .ok p)
    (hrun : db.runCommands (commandsOf p.plan.statements) = (.ok (), db')) :
    Built db db' t.table fields := by
  have hcommands := isOf_of_planOn hplan
  rw [planOn_of_absent habsent] at hplan
  obtain rfl := Except.ok.inj hplan
  obtain ⟨-, hreported⟩ := reported?_planNewTable (s := bareTable) hfields t.comment hrun
  have hsplit := hrun
  rw [statements_planNewTable_sqlite] at hsplit hcommands
  rw [commandsOf_cons rfl] at hsplit hcommands
  obtain ⟨mid, hfirst, hrest⟩ := runCommands_cons_eq_ok_iff.1 hsplit
  obtain ⟨hfree, -, -, -, ⟨u, hu, hname, hcolumns⟩, -⟩ := createTable_eq_ok hfirst
  obtain ⟨u', hu', hname', hcolumns'⟩ := columns_runCommands
    (fun c hc => (hcommands c (List.mem_cons_of_mem _ hc)).1) hrest hu
  rw [added_changes, List.append_nil, hcolumns] at hcolumns'
  refine ⟨?_, ⟨u', hu', hname'.trans hname, fun c => by rw [hcolumns']⟩, _, hreported,
    grows_planNewTable hfields t.comment⟩
  rw [statements_planNewTable_sqlite, commandsOf_cons rfl] at hrun
  exact (Sound.refl (isTaken_eq_false_iff.1 hfree).1).runCommands hcommands hrun

/-- The columns that the last fields stand for are those that were there and those that are
added. -/
theorem mem_newColumns_upgrade (hfields' : Declared .sqlite fields')
    (hkept : Retains fields fields') (h : Grows table fields bareTable s) (c : Column) :
    c ∈ newColumns (fields'.map (·.column .sqlite)) ↔
      c ∈ newColumns (fields.map (·.column .sqlite)) ∨
        ∃ f ∈ missing s fields', Column.ofWanted (f.column .sqlite) = c := by
  rw [mem_newColumns_iff, mem_newColumns_iff, or_assoc]
  refine or_congr_right ⟨?_, ?_⟩
  · rintro ⟨g, hg, rfl⟩
    cases hlive : s.columns[g.key]? with
    | none => exact .inr ⟨g, List.mem_filter.2 ⟨hg, by rw [hlive]; rfl⟩, rfl⟩
    | some live =>
        -- the column was there, so it is that of a field that was kept
        rw [h.columns, getElem?_bareTable hfields' hg, Option.none_or,
          Option.map_eq_some_iff] at hlive
        obtain ⟨f, hfound, -⟩ := hlive
        have hf : f ∈ fields := List.mem_of_find?_eq_some hfound
        have hkey : f.key = g.key := by simpa using List.find?_some hfound
        obtain ⟨f', hf', hsame, -, hcolumn⟩ := hkept.column hf
        obtain rfl : f' = g := hfields'.eq_of_key hf' hg (hsame.trans hkey)
        exact .inl ⟨f, hf, hcolumn.symm⟩
  · rintro (⟨f, hf, rfl⟩ | ⟨g, hg, rfl⟩)
    · obtain ⟨f', hf', -, -, hcolumn⟩ := hkept.column hf
      exact ⟨f', hf', hcolumn⟩
    · exact ⟨g, (List.mem_filter.1 hg).1, rfl⟩

/-- **A sync more builds on what was built**, if its definition keeps the fields. -/
theorem Built.upgrade (hfields : Declared .sqlite fields) (hfields' : Declared .sqlite fields')
    (hkept : Retains fields fields') (h : Built old db t.table fields)
    (hplan : planOn db o t fields' = .ok p)
    (hrun : db.runCommands (commandsOf p.plan.statements) = (.ok (), db')) :
    Built old db' t.table fields' := by
  have hcommands := isOf_of_planOn hplan
  obtain ⟨s, hs, hgrown⟩ := h.report
  obtain ⟨u, hu, hname, hcolumns⟩ := h.columns
  rcases planOn_eq_ok_iff.1 hplan with ⟨habsent, -⟩ | ⟨-, -, s', hs', hlive⟩
  · rw [h.hasTable] at habsent
    cases habsent
  obtain rfl : s = s' := Option.some.inj (hs.symm.trans hs')
  obtain ⟨-, hreported⟩ := reported?_planLiveTable hfields' hs hlive hrun
  refine ⟨h.sound.runCommands hcommands hrun, ?_, _, hreported,
    hgrown.upgrade hfields hfields' hkept (grows_planLiveTable hfields' hlive)⟩
  obtain ⟨u', hu', hname', hcolumns'⟩ :=
    columns_runCommands (fun c hc => (hcommands c hc).1) hrun hu
  refine ⟨u', hu', hname'.trans hname, fun c => ?_⟩
  rw [statements_planLiveTable hlive, commandsOf_append, List.filterMap_append, added_adds,
    added_changes, List.append_nil] at hcolumns'
  rw [hcolumns', List.mem_append, List.mem_map, hcolumns,
    mem_newColumns_upgrade hfields' hkept hgrown]

/-! ### Making it at once -/

/-- **The indexes of what was built can be made from what was there at first.** -/
theorem Built.index (h : Built old db table fields) {key : String}
    (hkey : key ∈ createIndexKeys (fields.map (·.column .sqlite))) :
    (isReserved (indexName table key) = false ∧ hasNul (indexName table key) = false) ∧
      sameName table (indexName table key) = false ∧
      old.isTaken (indexName table key) = false := by
  obtain ⟨s, hs, hgrown⟩ := h.report
  obtain ⟨u, hu, -⟩ := h.columns
  have hindex : s.indexes[indexName table key]? = some [key] :=
    hgrown.indexes_bare.2 ⟨key, hkey, rfl, rfl⟩
  obtain ⟨-, i, hi, hname, htable, -⟩ := (indexes_reported_iff hs).1 hindex
  rw [← hname]
  exact h.sound.index hu hi htable

/-- The commands that make the indexes of a new table. -/
theorem commandsOf_createIndexes (table : String) (keys : List String) :
    commandsOf ((keys.map (createIndexOf table)).map (·.statement table)) =
      keys.map fun key => .createIndex (indexName table key) false table [.column key] := by
  induction keys with
  | nil => rfl
  | cons key keys ih =>
      exact congrArg (Command.createIndex (indexName table key) false table [.column key] :: ·) ih

/-- **What a history makes of a table can be made at once** from what was there at first. -/
theorem Built.remake (hfields : Declared .sqlite fields) (h : Built old db table fields)
    (o : Options) (comment : Option String) :
    ∃ db', old.runCommands
      (commandsOf (planNewTable .sqlite o table fields comment).plan.statements) =
        (.ok (), db') := by
  obtain ⟨u, hu, hname, hcolumns⟩ := h.columns
  have hperm : (newColumns (fields.map (·.column .sqlite))).Perm u.columns :=
    (List.perm_ext_iff_of_nodup (nodup_newColumns hfields) (List.Nodup.of_map _ u.distinct)).2
      fun c => (hcolumns c).symm
  obtain ⟨mid, hmid⟩ := createTable_succeeds_iff.2
    (h.sound.makeable hu hname hperm (List.cons_ne_nil _ _))
  obtain ⟨-, hreserved, -, -, ⟨v, hv, -, hmade⟩, -⟩ := createTable_eq_ok hmid
  have hkeys : ∀ key ∈ createIndexKeys (fields.map (·.column .sqlite)),
      key ∈ v.columns.map (·.name) := by
    intro key hkey
    rw [hmade]
    exact mem_names_newColumns hkey
  have hfree : ∀ key ∈ createIndexKeys (fields.map (·.column .sqlite)),
      mid.isTaken (indexName table key) = false := by
    intro key hkey
    obtain ⟨hnamed, hother, hfree⟩ := h.index hkey
    exact isTaken_createTable hmid hother (sameName_sequences hnamed.1) hfree
  have hdistinct : ((createIndexKeys (fields.map (·.column .sqlite))).map fun key =>
      foldName (indexName table key)).Nodup :=
    (createIndexKeys_nodup hfields).map_on fun key hkey key' hkey' hsame =>
      v.name_eq (hkeys key hkey) (hkeys key' hkey') (foldName_indexName hsame)
  obtain ⟨db', hrest⟩ := createIndexes_succeed hv hreserved
    (fun key hkey => isSome_column? (hkeys key hkey)) (fun key hkey => (h.index hkey).1) hfree
    hdistinct
  refine ⟨db', ?_⟩
  rw [statements_planNewTable_sqlite, commandsOf_cons rfl, commandsOf_createIndexes]
  exact runCommands_cons_eq_ok_iff.2 ⟨mid, hmid, hrest⟩

/-! ### What is asked of it -/

/-- What hides introspection in what was built is the same for every history. -/
theorem Built.hides (h : Built old db table fields) (h' : Built old db' table fields')
    {sources : List String} (hsources : sources ⊆ Builtin.columnSource ++ Builtin.indexSource) :
    db.hides sources = db'.hides sources := by
  have htables : ∀ source ∈ sources, (db.table? source).isSome = (db'.table? source).isSome := by
    intro source hsource
    rcases Bool.eq_false_or_eq_true (sameName table source) with hsame | hother
    · obtain ⟨u, hu, -⟩ := h.columns
      obtain ⟨u', hu', -⟩ := h'.columns
      rw [← table?_congr hsame, ← table?_congr hsame, hu, hu']
      rfl
    · have hsequences := sequences_ne_source (hsources hsource)
      rw [h.sound.others source hother hsequences, h'.sound.others source hother hsequences]
  rw [Database.hides, Database.hides, Bool.eq_iff_iff, List.any_eq_true, List.any_eq_true]
  refine exists_congr fun source => and_congr_right fun hsource => ?_
  rw [htables source hsource]

/-- **What was built by the same fields is reported alike.** -/
theorem Built.answers (h : Built old db table fields) (h' : Built old db' table fields) :
    (backend.columns table db).1 = (backend.columns table db').1 ∧
      (backend.indexes table db).1 = (backend.indexes table db').1 := by
  obtain ⟨s, hs, hgrown⟩ := h.report
  obtain ⟨s', hs', hgrown'⟩ := h'.report
  obtain rfl := hgrown.unique hgrown'
  obtain ⟨u, hu, hcolumns, hindexes⟩ := reported?_eq_some_iff.1 hs
  obtain ⟨u', hu', hcolumns', hindexes'⟩ := reported?_eq_some_iff.1 hs'
  have hcolumnSource := h.hides h' (List.subset_append_left Builtin.columnSource _)
  have hindexSource := h.hides h' (List.subset_append_right _ Builtin.indexSource)
  constructor
  · change told (db.liveColumns? table) = told (db'.liveColumns? table)
    rw [liveColumns?_of_hasTable h.hasTable hu, liveColumns?_of_hasTable h'.hasTable hu',
      hcolumnSource, hcolumns, hcolumns']
  · change told (db.liveIndexes? table) = told (db'.liveIndexes? table)
    rw [liveIndexes?_of_hasTable h.hasTable, liveIndexes?_of_hasTable h'.hasTable, hindexSource,
      ← hindexes, ← hindexes']

/-! ### Histories -/

/-- **That a definition keeps another**: it is of the same table, and the fields of the other are
kept. -/
def Upgrades (t u : Definition) : Prop :=
  u.table = t.table ∧ ∀ fields fields', t.readFields .sqlite = .ok fields →
    u.readFields .sqlite = .ok fields' → Retains fields fields'

/-- **Definitions that are synced one after the other**, each of which keeps the one before it: the
last of them, and where that ends.  Every sync succeeds; the options need not be the same. -/
inductive History (j : Journal Database) : Definition → Journal Database → Prop
  | first {o : Options} {t : Definition} {out : Outcome} {j' : Journal Database}
      (hsent : o.planOnly = false) (hrun : (syncTable backend o t).run j = (.ok out, j')) :
      History j t j'
  | next {o : Options} {t u : Definition} {out : Outcome} {j' j'' : Journal Database}
      (h : History j t j') (hkept : Upgrades t u) (hsent : o.planOnly = false)
      (hrun : (syncTable backend o u).run j' = (.ok out, j'')) : History j u j''

/-- **A history builds its table.** -/
theorem built_of_history {j j' : Journal Database} (h : History j t j')
    (habsent : j.state.hasTable t.table = false) :
    ∃ fields, t.readFields .sqlite = .ok fields ∧ Built j.state j'.state t.table fields := by
  induction h with
  | first hsent hrun =>
      obtain ⟨fields, p, hread, hplan, hcommands, -⟩ :=
        (syncOn_eq_ok_iff hsent).1 (syncOn_of_run hrun)
      exact ⟨fields, hread,
        built_of_absent (declared_of_readFields hread) habsent hplan hcommands⟩
  | next _ hkept hsent hrun ih =>
      obtain ⟨htable, hretains⟩ := hkept
      obtain ⟨fields, hread, hbuilt⟩ := ih (htable ▸ habsent)
      obtain ⟨fields', p, hread', hplan, hcommands, -⟩ :=
        (syncOn_eq_ok_iff hsent).1 (syncOn_of_run hrun)
      rw [← htable] at hbuilt
      exact ⟨fields', hread', hbuilt.upgrade (declared_of_readFields hread)
        (declared_of_readFields hread') (hretains fields fields' hread hread') hplan hcommands⟩

/-- **The schema of a table does not depend on its history.**  The table was not there at first, and
definitions of it were synced one after the other, each of which keeps the fields of the one before
it.  Then the sync of the last of them alone succeeds from the same beginning, and the columns and
the indexes of the table are reported as they are after its history. -/
theorem sync_of_history {j j' : Journal Database} (h : History j t j')
    (habsent : j.state.hasTable t.table = false) (hsent : o.planOnly = false) :
    ∃ out j'', (syncTable backend o t).run j = (.ok out, j'') ∧
      (backend.columns t.table j''.state).1 = (backend.columns t.table j'.state).1 ∧
      (backend.indexes t.table j''.state).1 = (backend.indexes t.table j'.state).1 := by
  obtain ⟨fields, hread, hbuilt⟩ := built_of_history h habsent
  have hfields : Declared .sqlite fields := declared_of_readFields hread
  obtain ⟨db, hcommands⟩ := hbuilt.remake hfields o t.comment
  have hplan : planOn j.state o t fields =
      .ok (planNewTable .sqlite o t.table fields t.comment) := planOn_of_absent habsent
  obtain ⟨log, hrun⟩ := run_syncTable o t j
  rw [(syncOn_eq_ok_iff hsent).2 ⟨fields, _, hread, hplan, hcommands, rfl⟩] at hrun
  exact ⟨_, _, hrun, (built_of_absent hfields habsent hplan hcommands).answers hbuilt⟩

/-- Users whose addresses are a list and indexed, after their numbers. -/
def reachableUsers : Definition :=
  ⟨"user", none, [("phone", "phone|string|0|30|null|0|null"),
    ("email", "mails|array|1|20|null|1|null")]⟩

/-- The fields of the table of these users. -/
def reachableFields : List Field :=
  [⟨"phone", ⟨"phone", .string, some ⟨false, 0⟩, some ⟨false, 30 * Binary64.one⟩, .absent, false,
      none⟩⟩,
    ⟨"email", ⟨"mails", .arrayString, some ⟨false, Binary64.one⟩, some ⟨false, 20 * Binary64.one⟩,
      .absent, true, none⟩⟩]

/-- Users are the same whether their numbers came later or not. -/
theorem sync_of_reachableUsers :
    ∃ j' : Journal Database, History ⟨.empty, []⟩ reachableUsers j' ∧
      ∃ out j'', (syncTable backend {} reachableUsers).run ⟨.empty, []⟩ = (.ok out, j'') ∧
        (backend.columns "user" j''.state).1 = (backend.columns "user" j'.state).1 ∧
        (backend.indexes "user" j''.state).1 = (backend.indexes "user" j'.state).1 := by
  have hupgrades : Upgrades users reachableUsers := by
    refine ⟨rfl, fun fields fields' hread hread' => ?_⟩
    have hreachable : reachableUsers.readFields .sqlite = .ok reachableFields :=
      eq_ok_of_toOption (by decide +kernel)
    obtain rfl := Except.ok.inj ((readFields_users .sqlite).symm.trans hread)
    obtain rfl := Except.ok.inj (hreachable.symm.trans hread')
    decide +kernel
  obtain ⟨out, j', hfirst, hsync⟩ := run_of_isSome (o := {}) (t := users)
    (j := ⟨.empty, []⟩) (by decide +kernel)
  have hagain : (syncOn (syncOn .empty {} users).2 {} reachableUsers).1.toOption.isSome = true := by
    decide +kernel
  rw [hsync] at hagain
  obtain ⟨out', j'', hnext, -⟩ := run_of_isSome hagain
  have hhistory : History ⟨.empty, []⟩ reachableUsers j'' :=
    .next (.first rfl hfirst) hupgrades rfl hnext
  exact ⟨j'', hhistory, sync_of_history hhistory rfl rfl⟩

end Sqlite

end Conform

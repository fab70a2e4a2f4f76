/-
**What the sync of a table does to what is reported of it.**

A sync that succeeds adds the columns of the declared fields that were not reported, each with the
type, the length and the default of its rule.  It drops the indexes of fields that are not to be
indexed, where such an index is reported to cover the field alone, and it makes the indexes that
are wanted and of whose name none is reported.  Nothing else that is reported changes.  A table that
is new is made with the system columns and grows from there.

What is reported of a table can be asked for unless a table hides those that questions are asked of;
the sync of a definition of such a name succeeds, and what it made cannot be asked for.

Main definitions:

* `Sqlite.fresh` — the column of a declared field as it is reported;
* `Sqlite.bareTable` — a new table without fields as it is reported;
* `Sqlite.Grows` — **how the report of a table changes**;
* `Sqlite.Tells` — that introspection gives a report.

Main results:

* `Sqlite.grows_planLiveTable`, `Sqlite.grows_planNewTable` — the statements of a plan do this to
  the report;
* `Sqlite.effect_syncTable` — **what a sync does and what it leaves alone**.
-/

import Conform.Proofs.Sqlite.Frame

set_option relaxedAutoImplicit false
set_option autoImplicit false

namespace Conform

namespace Sqlite

open Database

variable {db db' : Database} {o : Options} {t : Definition} {fields : List Field} {p : Planned}
  {table : String} {s s' : Snapshot}

/-! ### Reports -/

/-- **The column of a declared field as it is reported.** -/
def fresh (f : Field) : LiveColumn :=
  { type := (f.column .sqlite).type.text, length := f.rule.length, nullable := true
    default := f.rule.default.value?, comment := none }

/-- The system columns as they are reported, by name. -/
def systemReport : List (String × LiveColumn) :=
  [("id", ⟨"INTEGER", none, true, none, none⟩),
    ("created_at", ⟨"DATETIME", none, false, some "CURRENT_TIMESTAMP", none⟩),
    ("updated_at", ⟨"DATETIME", none, false, some "CURRENT_TIMESTAMP", none⟩),
    ("deleted_at", ⟨"DATETIME", none, true, none, none⟩),
    ("state", ⟨"INTEGER", none, false, some "1", none⟩)]

/-- **A new table without fields as it is reported**: the system columns, and no index. -/
def bareTable : Snapshot := ⟨.ofList systemReport, ∅⟩

/-- A bare table has the columns that are always indexed. -/
theorem contains_bareTable {key : String} (h : key ∈ systemIndexKeys) :
    bareTable.columns.contains key = true := by
  rw [bareTable, Std.ExtTreeMap.contains_ofList]
  revert key
  decide +kernel

/-- A bare table has no column of a field. -/
theorem getElem?_bareTable {f : Field} (hfields : Declared .sqlite fields) (hf : f ∈ fields) :
    bareTable.columns[f.key]? = none := by
  have hkeys : systemReport.map (·.1) = reservedKeys := by decide +kernel
  have hfree : (systemReport.map Prod.fst).contains f.key = false := by
    rw [hkeys, ← Bool.not_eq_true, List.contains_iff_mem]
    exact hfields.free f hf
  rw [bareTable, Std.ExtTreeMap.getElem?_ofList_of_contains_eq_false hfree]

/-- **How the report of a table changes** when its definition is synced. -/
structure Grows (table : String) (fields : List Field) (s s' : Snapshot) : Prop where
  /-- Columns stay, and the declared ones that were missing are added. -/
  columns : ∀ key, s'.columns[key]? =
    s.columns[key]?.or ((fields.find? (·.key == key)).map fresh)
  /-- Indexes stay, unless they cover nothing but a field that is not to be indexed.  Those of
  system columns that are there and those of fields that are to be indexed are added, where none of
  the name was reported. -/
  indexes : ∀ name columns, s'.indexes[name]? = some columns ↔
    (s.indexes[name]? = some columns ∧ ¬ ∃ f ∈ fields, f.rule.indexed = false ∧
      name = indexName table f.key ∧ columns = [f.key]) ∨
    (s.indexes[name]? = none ∧ ∃ key, name = indexName table key ∧ columns = [key] ∧
      ((key ∈ systemIndexKeys ∧ s.columns.contains key = true) ∨
        ∃ f ∈ fields, f.key = key ∧ f.rule.indexed = true))

/-- **A new column is reported with the type, the length and the default of its rule.** -/
theorem column_reporting (hfields : Declared .sqlite fields) {f : Field} (hf : f ∈ fields) :
    reporting.column (f.column .sqlite) = fresh f := by
  have hlength : TypeName.declaredLength? (f.column .sqlite).type.text = f.rule.length := by
    rw [← Declared.length_column (d := .sqlite) f]
    cases hstated : (f.column .sqlite).type.length with
    | none =>
        rw [ColumnType.text, hstated]
        cases (f.column .sqlite).type.storage <;> decide +kernel
    | some n => exact (reporting_shows_field hfields hf).length n hstated
  have hdefault : f.rule.default.text?.bind Live.plainDefault = f.rule.default.value? := by
    cases f.rule.default with
    | absent => rfl
    | number n => rw [Default.text?, Option.bind_some, Live.plainDefault_toString]; rfl
    | text s => rw [Default.text?, Option.bind_some, plainDefault_literalText]; rfl
  rw [Reporting.column, fresh]
  exact congrArg₂ (fun length default => LiveColumn.mk _ length true default none) hlength hdefault

/-! ### Tables that are there -/

/-- **When no index of a name is dropped**, in terms of the fields. -/
theorem not_drop_mem_iff {name : String} :
    (∀ key, (⟨.drop, name, key⟩ : IndexChange) ∉
        indexChanges table s (fields.map (·.column .sqlite))) ↔
      ¬ ∃ f ∈ fields, f.rule.indexed = false ∧ name = indexName table f.key ∧
        s.indexes[name]? = some [f.key] := by
  simp only [drop_mem_indexChanges_iff]
  constructor
  · rintro hnone ⟨f, hf, hindexed, hname, hindex⟩
    exact hnone f.key ⟨hname, ⟨f.column .sqlite, List.mem_map_of_mem hf, rfl, hindexed⟩, hindex⟩
  · rintro hnone key ⟨hname, ⟨c, hc, rfl, hindexed⟩, hindex⟩
    obtain ⟨f, hf, rfl⟩ := List.mem_map.1 hc
    exact hnone ⟨f, hf, hindexed, hname, hindex⟩

/-- **When an index is made**, in terms of the fields. -/
theorem create_mem_iff {name key : String} :
    (⟨.create, name, key⟩ : IndexChange) ∈
        indexChanges table s (fields.map (·.column .sqlite)) ↔
      name = indexName table key ∧ s.indexes[name]? = none ∧
        ((key ∈ systemIndexKeys ∧ s.columns.contains key = true) ∨
          ∃ f ∈ fields, f.key = key ∧ f.rule.indexed = true) := by
  rw [create_mem_indexChanges_iff]
  simp only [List.mem_map, exists_exists_and_eq_and]
  rfl

/-- **The statements of a plan for a table that is there** do to its report what a sync does. -/
theorem grows_planLiveTable (hfields : Declared .sqlite fields)
    (h : planLiveTable .sqlite o table fields s = .ok p) :
    Grows table fields s (s.applyAll reporting p.plan.statements) where
  columns key := by
    by_cases hkey : ∃ f ∈ fields, f.key = key
    · obtain ⟨f, hf, rfl⟩ := hkey
      obtain ⟨a, hdraft, rfl⟩ := planLiveTable_eq_ok_iff.1 h
      obtain ⟨b, hb⟩ := draftField_of_draftFields hdraft hf
      obtain ⟨hmodifies, hdefaults, hcomments, hadds⟩ := draftField_sqlite hb
      rw [getElem?_columns_planned hdraft, filter_statements_of_mem hfields hdraft hf hb,
        hfields.find?_key hf, Draft.statements, hmodifies, hdefaults, hcomments, hadds]
      cases s.columns[f.key]? with
      | none => exact congrArg some (column_reporting hfields hf)
      | some live => rfl
    · have hnone : fields.find? (·.key == key) = none :=
        List.find?_eq_none.2 fun f hf hsame => hkey ⟨f, hf, by simpa using hsame⟩
      rw [getElem?_columns_of_other h fun f hf e => hkey ⟨f, hf, e⟩, hnone, Option.map_none,
        Option.or_none]
  indexes name columns := by
    obtain ⟨a, hdraft, rfl⟩ := planLiveTable_eq_ok_iff.1 h
    rw [indexes_planned hdraft, indexes_applyAll_iff reporting table hfields, not_drop_mem_iff]
    constructor
    · rintro (⟨hsome, hkept⟩ | ⟨key, hmade, rfl⟩)
      · refine .inl ⟨hsome, ?_⟩
        rintro ⟨f, hf, hindexed, hname, rfl⟩
        exact hkept ⟨f, hf, hindexed, hname, hsome⟩
      · obtain ⟨hname, hnone, hwanted⟩ := create_mem_iff.1 hmade
        exact .inr ⟨hnone, key, hname, rfl, hwanted⟩
    · rintro (⟨hsome, hkept⟩ | ⟨hnone, key, hname, rfl, hwanted⟩)
      · refine .inl ⟨hsome, ?_⟩
        rintro ⟨f, hf, hindexed, hname, hindex⟩
        exact hkept ⟨f, hf, hindexed, hname, Option.some.inj (hsome.symm.trans hindex)⟩
      · exact .inr ⟨key, create_mem_iff.2 ⟨hname, hnone, hwanted⟩, rfl⟩

/-! ### New tables -/

/-- The columns of a new table: the system columns and those of the fields. -/
theorem getElem?_columns_newTable (hfields : Declared .sqlite fields) (key : String) :
    (reporting.newTable (fields.map (·.column .sqlite)))[key]? =
      bareTable.columns[key]?.or ((fields.find? (·.key == key)).map fresh) := by
  by_cases hkey : ∃ f ∈ fields, f.key = key
  · obtain ⟨f, hf, rfl⟩ := hkey
    rw [getElem?_newTable hfields hf, hfields.find?_key hf, getElem?_bareTable hfields hf]
    exact congrArg some (column_reporting hfields hf)
  · -- the columns of the fields come after the system columns and do not replace them
    have hnone : fields.find? (·.key == key) = none :=
      List.find?_eq_none.2 fun f hf hsame => hkey ⟨f, hf, by simpa using hsame⟩
    have hother : (((fields.map (·.column .sqlite)).map fun c =>
        (c.key, reporting.column c)).map Prod.fst).contains key = false := by
      rw [← Bool.not_eq_true, List.contains_iff_mem]
      simpa using fun f hf e => hkey ⟨f, hf, e⟩
    have hsystem : systemColumns.map (fun c => (c.key, reporting.system c)) = systemReport := by
      decide +kernel
    rw [hnone, Option.map_none, Option.or_none, Reporting.newTable, hsystem,
      Std.ExtTreeMap.ofList_eq_insertMany_empty, Std.ExtTreeMap.insertMany_append,
      Std.ExtTreeMap.getElem?_insertMany_list_of_contains_eq_false hother, bareTable,
      Std.ExtTreeMap.ofList_eq_insertMany_empty]

/-- **The indexes of a new table**: one for each key that gets one, and no other. -/
theorem indexes_planNewTable_iff (hfields : Declared .sqlite fields) {comment : Option String}
    {name : String} {columns : List String} :
    (s.applyAll reporting
        (planNewTable .sqlite o table fields comment).plan.statements).indexes[name]? =
          some columns ↔
      ∃ key ∈ createIndexKeys (fields.map (·.column .sqlite)),
        name = indexName table key ∧ columns = [key] := by
  by_cases hname : ∃ key, name = indexName table key
  · obtain ⟨key, rfl⟩ := hname
    rw [indexes_planNewTable hfields]
    constructor
    · intro hsome
      split at hsome
      next hkey => exact ⟨key, hkey, rfl, (Option.some.inj hsome).symm⟩
      · cases hsome
    · rintro ⟨key', hkey, hname, rfl⟩
      obtain rfl := indexName_inj hname
      rw [if_pos hkey]
  · -- no statement is about an index of another name, and the table is made without any
    have hother : ∀ a ∈ (createIndexKeys (fields.map (·.column .sqlite))).map (createIndexOf table),
        a.index ≠ name := by
      rintro a ha rfl
      obtain ⟨key, -, rfl⟩ := List.mem_map.1 ha
      exact hname ⟨key, rfl⟩
    have hnone : (s.applyAll reporting
        (planNewTable .sqlite o table fields comment).plan.statements).indexes[name]? = none := by
      rw [statements_planNewTable_sqlite, Snapshot.applyAll_cons,
        Snapshot.getElem?_indexes_of_not_mem hother]
      exact Std.ExtTreeMap.getElem?_empty
    rw [hnone]
    constructor
    · intro hsome
      cases hsome
    · rintro ⟨key, -, rfl, -⟩
      exact absurd ⟨key, rfl⟩ hname

/-- **The statements of a plan for a new table** make it grow from a bare one. -/
theorem grows_planNewTable (hfields : Declared .sqlite fields) (comment : Option String) :
    Grows table fields bareTable
      (s.applyAll reporting (planNewTable .sqlite o table fields comment).plan.statements) where
  columns key := by
    rw [statements_planNewTable_sqlite, Snapshot.applyAll_cons, Snapshot.columns_applyAll_changes]
    exact getElem?_columns_newTable hfields key
  indexes name columns := by
    have hempty : bareTable.indexes[name]? = none := Std.ExtTreeMap.getElem?_empty
    rw [indexes_planNewTable_iff hfields, hempty]
    constructor
    · rintro ⟨key, hkey, hname, hcolumns⟩
      refine .inr ⟨rfl, key, hname, hcolumns, ?_⟩
      exact (mem_createIndexKeys_iff.1 hkey).imp_left fun hkey => ⟨hkey, contains_bareTable hkey⟩
    · rintro (⟨hsome, -⟩ | ⟨-, key, hname, hcolumns, hwanted⟩)
      · cases hsome
      · exact ⟨key, mem_createIndexKeys_iff.2 (hwanted.imp_left And.left), hname, hcolumns⟩

/-! ### What introspection gives -/

/-- **That introspection gives a report.** -/
def Tells (db : Database) (table : String) (s : Snapshot) : Prop :=
  (backend.columns table db).1 = .ok s.columns ∧ (backend.indexes table db).1 = .ok s.indexes

/-- The columns of a table that is there can be asked for unless that is hidden. -/
theorem columns_told_iff (hthere : db.hasTable table = true) (hs : db.reported? table = some s) :
    (backend.columns table db).1 = .ok s.columns ↔ db.hides Builtin.columnSource = false := by
  obtain ⟨u, hu, hcolumns, -⟩ := reported?_eq_some_iff.1 hs
  change told (db.liveColumns? table) = _ ↔ _
  rw [liveColumns?_of_hasTable hthere hu]
  cases db.hides Builtin.columnSource with
  | true => simp [told]
  | false => simp [told, hcolumns]

/-- The indexes of a table that is there can be asked for unless that is hidden. -/
theorem indexes_told_iff (hthere : db.hasTable table = true) (hs : db.reported? table = some s) :
    (backend.indexes table db).1 = .ok s.indexes ↔ db.hides Builtin.indexSource = false := by
  obtain ⟨u, -, -, hindexes⟩ := reported?_eq_some_iff.1 hs
  change told (db.liveIndexes? table) = _ ↔ _
  rw [liveIndexes?_of_hasTable hthere, hindexes]
  cases db.hides Builtin.indexSource with
  | true => simp [told]
  | false => simp [told]

theorem tells_iff (hthere : db.hasTable table = true) (hs : db.reported? table = some s) :
    Tells db table s ↔ db.hides (Builtin.columnSource ++ Builtin.indexSource) = false := by
  rw [Tells, columns_told_iff hthere hs, indexes_told_iff hthere hs, hides, hides, hides,
    List.any_append, Bool.or_eq_false_iff]

/-! ### Syncs -/

/-- A sync hides none of the tables that are asked, if its definition has none of their names. -/
theorem hides_syncOn (hnames : ∀ source ∈ Builtin.columnSource ++ Builtin.indexSource,
      db.table? source = none ∧ sameName t.table source = false) (o : Options) :
    (syncOn db o t).2.hides (Builtin.columnSource ++ Builtin.indexSource) = false := by
  have hlist : (syncedOn db o [t]).hides (Builtin.columnSource ++ Builtin.indexSource) = false := by
    refine hides_syncedOn (fun source hsource => ⟨(hnames source hsource).1, fun u hu => ?_⟩) o
    obtain rfl := List.mem_singleton.1 hu
    exact (hnames source hsource).2
  exact hlist

/-- A table that is there while none of them is hidden does not have the name of one. -/
theorem names_of_hides (hthere : db.hasTable table = true)
    (hasked : db.hides (Builtin.columnSource ++ Builtin.indexSource) = false) :
    ∀ source ∈ Builtin.columnSource ++ Builtin.indexSource,
      db.table? source = none ∧ sameName table source = false := by
  intro source hsource
  have hnone : db.table? source = none := hides_eq_false_iff.1 hasked source hsource
  refine ⟨hnone, ?_⟩
  rw [← Bool.not_eq_true]
  intro hsame
  obtain ⟨v, hv, -⟩ := hasTable_iff.1 hthere
  rw [table?_congr hsame, hnone] at hv
  cases hv

/-- The sync of a table that is there comes to hide none of them. -/
theorem hides_syncOn_of_hasTable (hthere : db.hasTable t.table = true)
    (hasked : db.hides (Builtin.columnSource ++ Builtin.indexSource) = false) (o : Options) :
    (syncOn db o t).2.hides (Builtin.columnSource ++ Builtin.indexSource) = false :=
  hides_syncOn (names_of_hides hthere hasked) o

/-- **What a sync does and what it leaves alone**, where statements are sent.  Whether it succeeds
or not, it spares what its definition is not about.  If it succeeds on a table that was there, the
report of the table has grown by its fields.  If it succeeds on a table that was not there, the
table has grown from a bare one; its columns can be asked for unless a table hides those that
columns are asked of, and its indexes unless one hides those that indexes are asked of.  None is
hidden if neither the database nor the definition had its name. -/
theorem effect_syncTable (hplan : o.planOnly = false) {j j' : Journal Database}
    {result : Except SyncError Outcome} (h : (syncTable backend o t).run j = (result, j')) :
    Spares j.state j'.state t ∧ ∀ out, result = .ok out →
      ∃ fields, t.readFields .sqlite = .ok fields ∧
        (j.state.hasTable t.table = true → ∃ s s', Tells j.state t.table s ∧
          Tells j'.state t.table s' ∧ Grows t.table fields s s') ∧
        (j.state.hasTable t.table = false → ∃ s', Grows t.table fields bareTable s' ∧
          ((backend.columns t.table j'.state).1 = .ok s'.columns ↔
            j'.state.hides Builtin.columnSource = false) ∧
          ((backend.indexes t.table j'.state).1 = .ok s'.indexes ↔
            j'.state.hides Builtin.indexSource = false) ∧
          ((∀ source ∈ Builtin.columnSource ++ Builtin.indexSource,
              j.state.table? source = none ∧ sameName t.table source = false) →
            Tells j'.state t.table s')) := by
  have hsync := syncOn_of_run h
  have hafter : (syncOn j.state o t).2 = j'.state := congrArg Prod.snd hsync
  refine ⟨hafter ▸ spares_syncOn j.state o t, ?_⟩
  rintro out rfl
  obtain ⟨fields, p, hread, hplanned, hrun, -⟩ := (syncOn_eq_ok_iff hplan).1 hsync
  have hfields := declared_of_readFields hread
  refine ⟨fields, hread, fun hthere => ?_, fun habsent => ?_⟩
  · rcases planOn_eq_ok_iff.1 hplanned with ⟨habsent, -⟩ | ⟨-, hasked, s, hs, hlive⟩
    · rw [hthere] at habsent
      cases habsent
    · -- the questions were answered before, and the table is not one that is made now
      obtain ⟨hthere', hreported⟩ := reported?_planLiveTable hfields hs hlive hrun
      have hasked' := hides_syncOn_of_hasTable hthere hasked o
      rw [hafter] at hasked'
      exact ⟨s, _, (tells_iff hthere hs).2 hasked, (tells_iff (hthere' hthere) hreported).2 hasked',
        grows_planLiveTable hfields hlive⟩
  · rw [planOn_of_absent habsent] at hplanned
    obtain rfl := Except.ok.inj hplanned
    obtain ⟨hthere', hreported⟩ := reported?_planNewTable (s := bareTable) hfields t.comment hrun
    refine ⟨_, grows_planNewTable hfields t.comment, columns_told_iff hthere' hreported,
      indexes_told_iff hthere' hreported, fun hnames => (tells_iff hthere' hreported).2 ?_⟩
    rw [← hafter]
    exact hides_syncOn hnames o

/-- A table whose name is that of the one that columns are asked of. -/
def hidingColumns : Definition := ⟨"pragma_table_info", none, []⟩

/-- A table of users that was there loses the index of the addresses and keeps the rest. -/
theorem effect_on_users :
    ∃ j' : Journal Database, Spares (indexedUsers false) j'.state users ∧ ∃ s s',
      Tells (indexedUsers false) "user" s ∧ Tells j'.state "user" s' ∧
        Grows "user" userFields s s' := by
  have hsucceeds : (syncOn (indexedUsers false) {} users).1.toOption.isSome = true := by
    decide +kernel
  obtain ⟨out, hout⟩ := Option.isSome_iff_exists.1 hsucceeds
  obtain ⟨log, hrun⟩ := run_syncTable {} users ⟨indexedUsers false, []⟩
  rw [eq_ok_of_toOption hout] at hrun
  obtain ⟨hspares, hdone⟩ := effect_syncTable rfl hrun
  obtain ⟨fields, hread, hgrown, -⟩ := hdone out rfl
  obtain rfl : userFields = fields := by
    rw [readFields_users] at hread
    exact Except.ok.inj hread
  exact ⟨_, hspares, hgrown (by decide +kernel)⟩

/-- **The columns of a table that was just made cannot always be asked for**: the table may hide
the one that they are asked of. -/
theorem made_and_hidden :
    ¬ ∀ (o : Options) (t : Definition) (j j' : Journal Database) (out : Outcome),
        o.planOnly = false → j.state.hasTable t.table = false →
          (syncTable backend o t).run j = (.ok out, j') →
            ∃ columns, (backend.columns t.table j'.state).1 = .ok columns := by
  intro hclaim
  obtain ⟨out, j', hrun⟩ := run_syncTable_empty (t := hidingColumns) (by decide +kernel)
  obtain ⟨columns, hcolumns⟩ := hclaim {} hidingColumns ⟨.empty, []⟩ j' out rfl rfl hrun
  have hafter : (syncOn .empty {} hidingColumns).2 = j'.state :=
    congrArg Prod.snd (syncOn_of_run hrun)
  have hfailed : (backend.columns hidingColumns.table
      (syncOn .empty {} hidingColumns).2).1.toOption.isSome = false := by decide +kernel
  rw [hafter, hcolumns] at hfailed
  cases hfailed

end Sqlite

end Conform

/-
**What introspection reports, and how statements change it.**

The columns of a table are reported by name, and an index that is not unique by its name with its
plain columns.  Each statement of a plan that succeeds changes the report of its table exactly as
it changes a snapshot.

Main definitions:

* `Sqlite.reportedColumns?`, `Sqlite.rowsOf` — the report of columns and of indexes;
* `Database.reported?` — **the report of a table**, apart from tables that hide introspection.

Main results:

* `Database.liveColumns?_of_hasTable`, `Database.liveIndexes?_of_hasTable` — introspection gives
  the report unless something hides it;
* `Database.indexes_reported_iff` — **which indexes are reported, and how**;
* `reported?_addColumn`, `reported?_createIndex`, `reported?_dropIndex`, `reported?_createTable` —
  **a statement changes the report as it changes a snapshot**.
-/

import Conform.Proofs.Sqlite.Reported
import Conform.Proofs.Sqlite.Schema

set_option relaxedAutoImplicit false
set_option autoImplicit false

namespace Conform

namespace Sqlite

/-! ### The report of columns -/

/-- **The columns of a table as they are reported**, unless the type of one is no text. -/
def reportedColumns? (columns : List Column) : Option (NameMap LiveColumn) :=
  ((columns.filter (!·.computed)).mapM Column.live?).map fun live => Std.ExtTreeMap.ofList live

theorem ofList_append_singleton {α : Type} (l : List (String × α)) (k : String) (a : α) :
    (Std.ExtTreeMap.ofList (l ++ [(k, a)]) : NameMap α) =
      (Std.ExtTreeMap.ofList l : NameMap α).insert k a := by
  rw [Std.ExtTreeMap.ofList_eq_insertMany_empty, Std.ExtTreeMap.insertMany_append,
    Std.ExtTreeMap.insertMany_list_singleton, ← Std.ExtTreeMap.ofList_eq_insertMany_empty]

/-- Columns are reported when the type of each of them is a text. -/
theorem mapM_live?_eq_some_iff {columns : List Column} {live : List (String × LiveColumn)} :
    columns.mapM Column.live? = some live ↔
      (∀ c ∈ columns, c.type.isSome = true) ∧
        live = columns.map fun c => (c.name, c.reported) := by
  induction columns generalizing live with
  | nil =>
      constructor
      · intro e
        cases e
        exact ⟨by simp, rfl⟩
      · rintro ⟨-, rfl⟩
        rfl
  | cons c columns ih =>
      cases htype : c.type with
      | none =>
          have hnone : c.live? = none := by rw [Column.live?, htype, Option.map_none]
          simp [List.mapM_cons, hnone, htype]
      | some type =>
          have hsome := Column.live?_eq_some (c := c) (by rw [htype]; rfl)
          rw [List.mapM_cons, hsome]
          cases hrest : columns.mapM Column.live? with
          | none =>
              constructor
              · intro e
                cases e
              · rintro ⟨htypes, -⟩
                have hlive := ih.2 ⟨(List.forall_mem_cons.1 htypes).2, rfl⟩
                rw [hrest] at hlive
                cases hlive
          | some rest =>
              obtain ⟨htypes, rfl⟩ := ih.1 hrest
              have hall : ∀ b ∈ c :: columns, b.type.isSome = true :=
                List.forall_mem_cons.2 ⟨by rw [htype]; rfl, htypes⟩
              constructor
              · intro e
                cases e
                exact ⟨hall, rfl⟩
              · rintro ⟨-, rfl⟩
                rfl

/-- **The report of columns**: those that are not computed, by name. -/
theorem reportedColumns?_eq_some_iff {columns : List Column} {m : NameMap LiveColumn} :
    reportedColumns? columns = some m ↔
      (∀ c ∈ columns.filter (!·.computed), c.type.isSome = true) ∧
        m = Std.ExtTreeMap.ofList
          ((columns.filter (!·.computed)).map fun c => (c.name, c.reported)) := by
  rw [reportedColumns?, Option.map_eq_some_iff]
  constructor
  · rintro ⟨live, hlive, rfl⟩
    obtain ⟨htypes, rfl⟩ := mapM_live?_eq_some_iff.1 hlive
    exact ⟨htypes, rfl⟩
  · rintro ⟨htypes, rfl⟩
    exact ⟨_, mapM_live?_eq_some_iff.2 ⟨htypes, rfl⟩, rfl⟩

/-- A column that is added is reported with the others. -/
theorem reportedColumns?_append {columns : List Column} {c : Column} {m : NameMap LiveColumn}
    (h : reportedColumns? columns = some m) (hcomputed : c.computed = false)
    (htype : c.type.isSome = true) :
    reportedColumns? (columns ++ [c]) = some (m.insert c.name c.reported) := by
  obtain ⟨htypes, rfl⟩ := reportedColumns?_eq_some_iff.1 h
  have hfilter : (columns ++ [c]).filter (!·.computed) = columns.filter (!·.computed) ++ [c] := by
    rw [List.filter_append]
    simp [hcomputed]
  refine reportedColumns?_eq_some_iff.2 ⟨?_, ?_⟩
  · rw [hfilter]
    exact List.forall_mem_append.2 ⟨htypes, List.forall_mem_singleton.2 htype⟩
  · rw [hfilter, List.map_append, List.map_singleton, ofList_append_singleton]

/-- A column that is reported is there, letter case included. -/
theorem mem_of_reportedColumns? {columns : List Column} {m : NameMap LiveColumn} {key : String}
    (h : reportedColumns? columns = some m) (hkey : m.contains key = true) :
    key ∈ columns.map (·.name) := by
  obtain ⟨-, rfl⟩ := reportedColumns?_eq_some_iff.1 h
  rw [Std.ExtTreeMap.contains_ofList, List.map_map, List.contains_iff_mem] at hkey
  obtain ⟨c, hc, rfl⟩ := List.mem_map.1 hkey
  exact List.mem_map.2 ⟨c, (List.mem_filter.1 hc).1, rfl⟩

/-! ### The report of indexes -/

/-- **The rows that are reported of a list of indexes.** -/
def rowsOf (indexes : List Index) : List (String × String) :=
  (indexes.filter fun i => !i.unique).flatMap fun i =>
    (Database.plainColumns i).map fun column => (i.name, column)

theorem columnsOf_rowsOf (name : String) (indexes : List Index) :
    Snapshot.columnsOf name (rowsOf indexes) =
      (indexes.filter fun i => !i.unique && i.name == name).flatMap Database.plainColumns := by
  induction indexes with
  | nil => rfl
  | cons i indexes ih =>
      have happend : ∀ rows rows' : List (String × String),
          Snapshot.columnsOf name (rows ++ rows') =
            Snapshot.columnsOf name rows ++ Snapshot.columnsOf name rows' := by
        intro rows rows'
        simp [Snapshot.columnsOf]
      have hrows : Snapshot.columnsOf name ((Database.plainColumns i).map fun c => (i.name, c)) =
          if i.name = name then Database.plainColumns i else [] := by
        rw [Snapshot.columnsOf, List.filter_map]
        by_cases h : i.name = name <;> simp [h, Function.comp_def]
      unfold rowsOf at ih ⊢
      cases hunique : i.unique with
      | true => simpa [hunique] using ih
      | false =>
          rw [List.filter_cons_of_pos (by simp [hunique]), List.flatMap_cons, happend, hrows, ih]
          by_cases h : i.name = name <;> simp [hunique, h]

/-- The report of one more index of a plain column, whose name is new. -/
theorem groupRows_cons {name table key : String} {indexes : List Index}
    (hnew : ∀ i ∈ indexes, i.name ≠ name) :
    Snapshot.groupRows (rowsOf (⟨name, table, false, [.column key]⟩ :: indexes)) =
      (Snapshot.groupRows (rowsOf indexes)).insert name [key] := by
  have hnone : Snapshot.columnsOf name (rowsOf indexes) = [] := by
    rw [columnsOf_rowsOf]
    have hfilter : (indexes.filter fun i => !i.unique && i.name == name) = [] :=
      List.filter_eq_nil_iff.2 fun i hi => by simp [hnew i hi]
    rw [hfilter, List.flatMap_nil]
  have hrows : rowsOf (⟨name, table, false, [.column key]⟩ :: indexes) =
      (name, key) :: rowsOf indexes := rfl
  refine Std.ExtTreeMap.ext_getElem? fun n => ?_
  rw [Snapshot.getElem?_groupRows, hrows, Snapshot.columnsOf_cons, Std.ExtTreeMap.getElem?_insert]
  by_cases h : name = n
  · subst h
    simp [hnone]
  · simp [h, Snapshot.getElem?_groupRows]

/-- The report without an index, if no other has its name in other letters. -/
theorem groupRows_filter {name : String} {indexes : List Index}
    (honly : ∀ i ∈ indexes, sameName i.name name = true → i.name = name) :
    Snapshot.groupRows (rowsOf (indexes.filter fun i => !sameName i.name name)) =
      (Snapshot.groupRows (rowsOf indexes)).erase name := by
  refine Std.ExtTreeMap.ext_getElem? fun n => ?_
  rw [Snapshot.getElem?_groupRows, columnsOf_rowsOf, Std.ExtTreeMap.getElem?_erase,
    Snapshot.getElem?_groupRows, columnsOf_rowsOf, List.filter_filter]
  by_cases h : name = n
  · subst h
    have hnil : (indexes.filter fun i =>
        (!i.unique && i.name == name) && !sameName i.name name) = [] := by
      refine List.filter_eq_nil_iff.2 fun i _ hi => ?_
      simp only [Bool.and_eq_true, beq_iff_eq, Bool.not_eq_true'] at hi
      rw [hi.1.2, sameName_self] at hi
      exact absurd hi.2 (by decide)
    rw [hnil]
    simp
  · have hsame : (indexes.filter fun i => (!i.unique && i.name == n) && !sameName i.name name) =
        indexes.filter fun i => !i.unique && i.name == n := by
      refine List.filter_congr fun i hi => ?_
      by_cases hname : i.name = n
      · have hother : sameName i.name name = false := by
          rw [← Bool.not_eq_true]
          exact fun hsame => h ((honly i hi hsame).symm.trans hname)
        simp [hother]
      · simp [hname]
    rw [hsame]
    simp [h]

/-! ### The report of a table -/

namespace Database

variable {db db' : Database} {table : String} {s : Snapshot}

/-- **The report of a table**, apart from tables that hide introspection. -/
def reported? (db : Database) (table : String) : Option Snapshot :=
  (db.table? table).bind fun t => (reportedColumns? t.columns).map fun columns =>
    ⟨columns, Snapshot.groupRows (rowsOf (db.indexesOf table))⟩

theorem reported?_eq_some_iff :
    db.reported? table = some s ↔ ∃ t, db.table? table = some t ∧
      reportedColumns? t.columns = some s.columns ∧
        s.indexes = Snapshot.groupRows (rowsOf (db.indexesOf table)) := by
  simp only [reported?, Option.bind_eq_some_iff, Option.map_eq_some_iff]
  constructor
  · rintro ⟨t, ht, m, hm, rfl⟩
    exact ⟨t, ht, hm, rfl⟩
  · rintro ⟨t, ht, hm, hindexes⟩
    exact ⟨t, ht, s.columns, hm, by rw [← hindexes]⟩

theorem Keeps.reported? (h : Keeps db db' table) : db'.reported? table = db.reported? table := by
  rw [Database.reported?, Database.reported?, h.table, h.indexes]

/-- A table is there under its exact name when the table that has the name is spelled so. -/
theorem hasTable_iff :
    db.hasTable table = true ↔ ∃ t, db.table? table = some t ∧ t.name = table := by
  rw [hasTable, List.any_eq_true]
  constructor
  · rintro ⟨t, ht, hname⟩
    have hname : t.name = table := beq_iff_eq.1 hname
    exact ⟨t, table?_eq_some_iff.2 ⟨ht, hname ▸ sameName_self t.name⟩, hname⟩
  · rintro ⟨t, ht, hname⟩
    exact ⟨t, mem_of_table? ht, beq_iff_eq.2 hname⟩

/-- Nothing is hidden where none of the tables is there that introspection asks. -/
theorem hides_eq_false_iff {sources : List String} :
    db.hides sources = false ↔ ∀ source ∈ sources, db.table? source = none := by
  rw [hides, List.any_eq_false]
  simp

/-- The table of sequences is none of those that introspection asks. -/
theorem sequences_ne_source {source : String}
    (h : source ∈ Builtin.columnSource ++ Builtin.indexSource) :
    sameName sequences.name source = false := by
  revert source
  decide +kernel

/-- The name of a table that is there is asked for as it is. -/
theorem argument_of_hasTable (h : db.hasTable table = true) : argument table = table := by
  obtain ⟨t, -, rfl⟩ := hasTable_iff.1 h
  exact argument_eq_self t.named

/-- **What introspection gives of a table that is there**: its report, unless a table hides those
that are asked. -/
theorem liveColumns?_of_hasTable (h : db.hasTable table = true) {t : Table}
    (ht : db.table? table = some t) :
    db.liveColumns? table =
      if db.hides Builtin.columnSource then none else reportedColumns? t.columns := by
  rw [liveColumns?, argument_of_hasTable h, columnsOf?, ht]
  split
  · rfl
  · rfl

theorem liveIndexes?_of_hasTable (h : db.hasTable table = true) :
    db.liveIndexes? table =
      if db.hides Builtin.indexSource then none
      else some (Snapshot.groupRows (rowsOf (db.indexesOf table))) := by
  rw [liveIndexes?, argument_of_hasTable h]
  rfl

/-- The indexes of a name that are reported: at most one. -/
theorem filter_named (indexes : List Index)
    (hdistinct : (indexes.map fun i => foldName i.name).Nodup) (name : String)
    (h : (indexes.filter fun i => !i.unique && i.name == name) ≠ []) :
    ∃ i ∈ indexes, i.name = name ∧ i.unique = false ∧
      (indexes.filter fun i => !i.unique && i.name == name) = [i] := by
  induction indexes with
  | nil => exact absurd rfl h
  | cons i indexes ih =>
      rw [List.map_cons, List.nodup_cons] at hdistinct
      by_cases hi : (!i.unique && i.name == name) = true
      · have hparts : i.unique = false ∧ i.name = name := by simpa using hi
        refine ⟨i, List.mem_cons_self .., hparts.2, hparts.1, ?_⟩
        rw [List.filter_cons, if_pos hi, List.cons.injEq]
        refine ⟨rfl, List.filter_eq_nil_iff.2 fun j hj hname => ?_⟩
        have hname : j.name = name := by
          simp only [Bool.and_eq_true, beq_iff_eq] at hname
          exact hname.2
        exact hdistinct.1 (List.mem_map.2 ⟨j, hj, by rw [hname, hparts.2]⟩)
      · rw [List.filter_cons, if_neg hi] at h ⊢
        obtain ⟨j, hj, hname, hunique, hfilter⟩ := ih hdistinct.2 h
        exact ⟨j, List.mem_cons_of_mem _ hj, hname, hunique, hfilter⟩

/-- **An index is reported with its plain columns**: it is not unique, it belongs to the table, and
it has the name as it is spelled. -/
theorem indexes_reported_iff (h : db.reported? table = some s) {name : String}
    {columns : List String} :
    s.indexes[name]? = some columns ↔ columns ≠ [] ∧ ∃ i ∈ db.indexes, i.name = name ∧
      sameName i.table table = true ∧ i.unique = false ∧ plainColumns i = columns := by
  obtain ⟨t, -, -, hindexes⟩ := reported?_eq_some_iff.1 h
  have hdistinct : ((db.indexesOf table).map fun i => foldName i.name).Nodup :=
    (List.nodup_append.1 db.distinct).2.1.sublist (List.filter_sublist.map _)
  rw [hindexes, Snapshot.getElem?_groupRows, columnsOf_rowsOf]
  constructor
  · intro hcolumns
    split at hcolumns
    · cases hcolumns
    next hne =>
      have hfilter : ((db.indexesOf table).filter fun i => !i.unique && i.name == name) ≠ [] := by
        intro e
        rw [e] at hne
        exact hne rfl
      obtain ⟨i, hi, hname, hunique, heq⟩ := filter_named _ hdistinct name hfilter
      obtain rfl := Option.some.inj hcolumns
      refine ⟨hne, i, (List.mem_filter.1 hi).1, hname, (List.mem_filter.1 hi).2, hunique, ?_⟩
      rw [heq, List.flatMap_singleton]
  · rintro ⟨hne, i, hi, hname, htable, hunique, rfl⟩
    have hmem : i ∈ (db.indexesOf table).filter fun i => !i.unique && i.name == name :=
      List.mem_filter.2 ⟨List.mem_filter.2 ⟨hi, htable⟩, by simp [hunique, hname]⟩
    obtain ⟨j, hj, hname', -, heq⟩ := filter_named _ hdistinct name (List.ne_nil_of_mem hmem)
    have hsame : i = j := by
      rw [heq] at hmem
      exact List.mem_singleton.1 hmem
    rw [heq, List.flatMap_singleton, ← hsame, if_neg hne]

/-! ### Statements of a plan -/

/-- **A column that is added** is added to the report. -/
theorem reported?_addColumn {c : Conform.Column}
    (h : db.addColumn table (.ofWanted c) = .ok db') (hs : db.reported? table = some s) :
    db'.reported? table = some (s.apply reporting (.alterTable table (.addColumn c))) := by
  obtain ⟨t, ht, hcolumns, hindexes⟩ := reported?_eq_some_iff.1 hs
  obtain ⟨hsameIndexes, ⟨u, t', hu, ht', -, hgrown⟩, -⟩ := addColumn_eq_ok h
  obtain rfl : t = u := Option.some.inj (ht.symm.trans hu)
  refine reported?_eq_some_iff.2 ⟨t', ht', ?_, ?_⟩
  · rw [hgrown, reportedColumns?_append hcolumns rfl rfl]
    refine congrArg some (Std.ExtTreeMap.ext_getElem? fun key => ?_)
    rw [Std.ExtTreeMap.getElem?_insert, Snapshot.getElem?_columns_apply rfl]
    by_cases hkey : c.key = key
    · simp [Statement.concerns, Statement.column?, Clause.key, Reporting.effect, hkey,
        reported_ofWanted]
    · simp [Statement.concerns, Statement.column?, Clause.key, hkey]
  · rw [indexesOf, hsameIndexes]
    exact hindexes

/-- **An index that is made** is added to the report, if its column is spelled as the table has
it. -/
theorem reported?_createIndex {name key : String}
    (h : db.createIndex name false table [.column key] = .ok db')
    (hs : db.reported? table = some s)
    (hkey : ∀ t, db.table? table = some t → key ∈ t.columns.map (·.name)) :
    db'.reported? table = some (s.apply reporting (.createIndex name table key)) := by
  obtain ⟨t, ht, hcolumns, hindexes⟩ := reported?_eq_some_iff.1 hs
  obtain ⟨htables, hfree, u, hu, hparts, hnew⟩ := createIndex_eq_ok h
  obtain rfl : t = u := Option.some.inj (ht.symm.trans hu)
  -- the column that is found is the one that is spelled so
  have hresolved : resolvePart? t (.column key) = some (.column key) := by
    obtain ⟨c, hc, hname⟩ := List.mem_map.1 (hkey t ht)
    cases hfound : column? t.columns key with
    | none =>
        have hnone := List.find?_eq_none.1 hfound c hc
        rw [hname, sameName_self] at hnone
        exact absurd rfl hnone
    | some c' =>
        obtain ⟨hc', hsame⟩ := column?_eq_some hfound
        have heq : c' = c := eq_of_key t.distinct hc' hc
          ((sameName_iff.1 hsame).trans (congrArg foldName hname.symm))
        rw [resolvePart?, hfound, Option.map_some, heq, hname]
  have hname := sameName_of_table? ht
  refine reported?_eq_some_iff.2 ⟨t, by rw [table?_of_tables htables, ht], hcolumns, ?_⟩
  have hsplit : db'.indexesOf table =
      ⟨name, t.name, false, [.column key]⟩ :: db.indexesOf table := by
    rw [indexesOf, indexesOf, hnew]
    simp [hresolved, hname]
  have hothers : ∀ i ∈ db.indexesOf table, i.name ≠ name := by
    intro i hi e
    have hother := (isTaken_eq_false_iff.1 hfree).2 i (List.mem_filter.1 hi).1
    rw [e, sameName_self] at hother
    cases hother
  rw [hsplit, groupRows_cons hothers, ← hindexes]
  rfl

/-- **An index that is dropped** leaves the report, if no other has its name in other letters. -/
theorem reported?_dropIndex {name : String} (h : db.dropIndex name = .ok db')
    (hs : db.reported? table = some s)
    (honly : ∀ i ∈ db.indexes, sameName i.name name = true → i.name = name) :
    db'.reported? table = some (s.apply reporting (.dropIndex name table)) := by
  obtain ⟨t, ht, hcolumns, hindexes⟩ := reported?_eq_some_iff.1 hs
  obtain ⟨htables, -, hkept⟩ := dropIndex_eq_ok h
  refine reported?_eq_some_iff.2 ⟨t, by rw [table?_of_tables htables, ht], hcolumns, ?_⟩
  have hfilter : db'.indexesOf table =
      (db.indexesOf table).filter fun i => !sameName i.name name := by
    rw [indexesOf, indexesOf, hkept, List.filter_filter, List.filter_filter]
    exact List.filter_congr fun i _ => Bool.and_comm _ _
  have honly' : ∀ i ∈ db.indexesOf table, sameName i.name name = true → i.name = name :=
    fun i hi => honly i (List.mem_filter.1 hi).1
  rw [hfilter, groupRows_filter honly', ← hindexes]
  rfl

/-- **A table that is made** is reported with its columns and without indexes. -/
theorem reported?_createTable {columns : List Conform.Column} {comment : Option String}
    {numbered : Bool} {growth : Growth}
    (h : db.createTable table (newColumns columns) numbered growth = .ok db') :
    db'.reported? table = some (s.apply reporting (.createTable table columns comment)) := by
  obtain ⟨hfree, -, -, hindexes, ⟨t, ht, -, hcolumns⟩, -⟩ := createTable_eq_ok h
  have hplain : ∀ c ∈ newColumns columns, c.computed = false ∧ c.type.isSome = true := by
    intro c hc
    rcases List.mem_append.1 hc with hc | hc
    · obtain ⟨c, _, rfl⟩ := List.mem_map.1 hc
      cases c <;> exact ⟨rfl, rfl⟩
    · obtain ⟨c, _, rfl⟩ := List.mem_map.1 hc
      exact ⟨rfl, rfl⟩
  have hfilter : (newColumns columns).filter (!·.computed) = newColumns columns :=
    List.filter_eq_self.2 fun c hc => by simp [(hplain c hc).1]
  refine reported?_eq_some_iff.2 ⟨t, ht, ?_, ?_⟩
  · rw [hcolumns]
    refine reportedColumns?_eq_some_iff.2 ⟨?_, ?_⟩
    · rw [hfilter]
      exact fun c hc => (hplain c hc).2
    · rw [hfilter, newColumns, List.map_append, List.map_map, List.map_map]
      have hsystem : ∀ c : SystemColumn, ((Column.ofSystem c).name, (Column.ofSystem c).reported) =
          (c.key, reporting.system c) := fun c => by rw [Column.name_ofSystem]; rfl
      simp only [Function.comp_def, hsystem]
      rfl
  · have hnone : db'.indexesOf table = [] := by
      rw [indexesOf, hindexes]
      exact indexesOf_eq_nil (isTaken_eq_false_iff.1 hfree).1
    rw [hnone]
    rfl

end Database

end Sqlite

end Conform

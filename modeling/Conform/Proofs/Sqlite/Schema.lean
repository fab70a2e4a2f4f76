/-
**What a change of the schema does, and what it leaves alone.**

Each change that succeeds is described by what it does to the tables and to the indexes.  A change
that concerns one table leaves every other table there is as it was, with its indexes.

Main definitions:

* `Database.Keeps` — that a table and its indexes are the same in two databases;
* `Database.Owns` — that the indexes of a name all belong to a given table;
* `Command.IsOf` — the commands that concern one table;
* `Database.runCommands` — commands one after the other, up to the first that fails.

Main results:

* `Database.createTable_eq_ok`, `Database.addColumn_eq_ok`, `Database.createIndex_eq_ok`,
  `Database.dropIndex_eq_ok` — **what each change does**;
* `Database.keeps_run`, `Database.keeps_runCommands` — **what concerns one table keeps the others**.
-/

import Conform.Sqlite.Command

set_option relaxedAutoImplicit false
set_option autoImplicit false

namespace Conform

namespace Sqlite

/-! ### Names -/

theorem sameName_comm {a b : String} (h : sameName a b = true) : sameName b a = true :=
  sameName_iff.2 (sameName_iff.1 h).symm

theorem sameName_trans {a b c : String} (hab : sameName a b = true) (hbc : sameName b c = true) :
    sameName a c = true :=
  sameName_iff.2 ((sameName_iff.1 hab).trans (sameName_iff.1 hbc))

/-- A name can be replaced by one that is the same to the database. -/
theorem sameName_congr {a b : String} (h : sameName a b = true) (c : String) :
    sameName a c = sameName b c := by
  rw [sameName, sameName, sameName_iff.1 h]

theorem sameName_congr_right {a b : String} (h : sameName a b = true) (c : String) :
    sameName c a = sameName c b := by
  rw [sameName, sameName, sameName_iff.1 h]

theorem column?_eq_some {columns : List Column} {name : String} {c : Column}
    (h : column? columns name = some c) : c ∈ columns ∧ sameName c.name name = true := by
  refine ⟨mem_of_column? h, ?_⟩
  rw [column?] at h
  have hfound := List.find?_some h
  exact hfound

/-- A column is found by its name. -/
theorem isSome_column? {columns : List Column} {name : String}
    (h : name ∈ columns.map (·.name)) : (column? columns name).isSome = true := by
  obtain ⟨c, hc, rfl⟩ := List.mem_map.1 h
  exact List.find?_isSome.2 ⟨c, hc, sameName_self c.name⟩

/-- Of the names of columns of a table no two are the same to the database. -/
theorem Table.name_eq {u : Table} {a b : String} (ha : a ∈ u.columns.map (·.name))
    (hb : b ∈ u.columns.map (·.name)) (h : foldName a = foldName b) : a = b := by
  obtain ⟨c, hc, rfl⟩ := List.mem_map.1 ha
  obtain ⟨d, hd, rfl⟩ := List.mem_map.1 hb
  exact congrArg Column.name (eq_of_key u.distinct hc hd h)

namespace Database

variable {db db' : Database}

theorem table?_eq_none_iff {name : String} :
    db.table? name = none ↔ ∀ t ∈ db.tables, sameName t.name name = false := by
  rw [table?, List.find?_eq_none]
  simp

/-- The tables are looked up by what their names have in common. -/
theorem table?_congr {a b : String} (h : sameName a b = true) : db.table? a = db.table? b := by
  rw [table?, table?]
  exact congrArg (List.find? · db.tables) (funext fun t => sameName_congr_right h t.name)

theorem isTaken_iff {name : String} :
    db.isTaken name = true ↔
      (∃ t ∈ db.tables, sameName t.name name = true) ∨
        ∃ i ∈ db.indexes, sameName i.name name = true := by
  simp only [isTaken, namesOf, decide_eq_true_eq, List.mem_append, List.mem_map, sameName_iff]

theorem isTaken_eq_false_iff {name : String} :
    db.isTaken name = false ↔ db.table? name = none ∧
      ∀ i ∈ db.indexes, sameName i.name name = false := by
  rw [← Bool.not_eq_true, isTaken_iff, table?_eq_none_iff]
  simp

/-- Of two indexes with the same name there is only one. -/
theorem index_eq_of_sameName {i j : Index} (hi : i ∈ db.indexes) (hj : j ∈ db.indexes)
    (h : sameName i.name j.name = true) : i = j :=
  eq_of_key (List.nodup_append.1 db.distinct).2.1 hi hj (sameName_iff.1 h)

/-- Where there is no table there are no indexes of it. -/
theorem indexesOf_eq_nil {name : String} (h : db.table? name = none) : db.indexesOf name = [] := by
  refine List.filter_eq_nil_iff.2 fun i hi hname => ?_
  obtain ⟨t, ht, hbelongs⟩ := db.rooted i hi
  rw [hbelongs.1, table?_eq_none_iff.1 h t ht] at hname
  cases hname

/-! ### Tables -/

/-- A table that is put in is found by its name, and so are the others. -/
theorem insertTable_eq_ok {name : String} {columns : List Column} {growth : Growth}
    (h : db.insertTable name columns growth = .ok db') :
    db.isTaken name = false ∧ DistinctColumns columns ∧ db'.indexes = db.indexes ∧
      (∃ t, db'.table? name = some t ∧ t.name = name ∧ t.columns = columns) ∧
      ∀ n, sameName name n = false → db'.table? n = db.table? n := by
  unfold insertTable at h
  split at h
  · cases h
  next hfree =>
    split at h
    next hdistinct =>
      split at h
      next hnul =>
        cases h
        refine ⟨Bool.not_eq_true _ ▸ hfree, hdistinct, rfl, ?_, fun n hn => ?_⟩
        · exact ⟨_, List.find?_cons_of_pos (sameName_self name), rfl, rfl⟩
        · exact List.find?_cons_of_neg (by rw [hn]; exact Bool.false_ne_true)
      · cases h
    · cases h

/-- The table of sequences is put in unless it is there; nothing else changes. -/
theorem withSequences_spec (db : Database) :
    db.withSequences.indexes = db.indexes ∧
      ∀ n, (db.table? n).isSome ∨ sameName sequences.name n = false →
        db.withSequences.table? n = db.table? n := by
  unfold withSequences
  split
  next db' h =>
    obtain ⟨hfree, -, hindexes, -, hothers⟩ := insertTable_eq_ok h
    refine ⟨hindexes, fun n hn => hothers n ?_⟩
    rcases hn with hn | hn
    · -- a table that is there does not have the name that was free
      rcases Bool.eq_false_or_eq_true (sameName sequences.name n) with hsame | hother
      · rw [← table?_congr hsame, (isTaken_eq_false_iff.1 hfree).1] at hn
        cases hn
      · exact hother
    · exact hn
  · exact ⟨rfl, fun _ _ => rfl⟩

/-- **A table that is made** was not there, and it has the columns that it was made with.  The
tables that were there stay, and besides it only the table of sequences can be new. -/
theorem createTable_eq_ok {name : String} {columns : List Column} {numbered : Bool}
    {growth : Growth} (h : db.createTable name columns numbered growth = .ok db') :
    db.isTaken name = false ∧ isReserved name = false ∧ DistinctColumns columns ∧
      db'.indexes = db.indexes ∧
      (∃ t, db'.table? name = some t ∧ t.name = name ∧ t.columns = columns) ∧
      ∀ n, sameName name n = false →
        (db.table? n).isSome ∨ sameName sequences.name n = false → db'.table? n = db.table? n := by
  unfold createTable at h
  split at h
  · cases h
  · split at h
    · cases h
    · split at h
      · cases h
      next hreserved =>
        split at h
        · cases h
        · cases hinsert : db.insertTable name columns growth with
          | error e => rw [hinsert] at h; cases h
          | ok new =>
              rw [hinsert] at h
              obtain ⟨hfree, hdistinct, hindexes, ⟨t, ht, hname, hcolumns⟩, hothers⟩ :=
                insertTable_eq_ok hinsert
              obtain ⟨hsequenceIndexes, hsequences⟩ := withSequences_spec new
              have hnew : db'.indexes = new.indexes ∧ ∀ n,
                  (new.table? n).isSome ∨ sameName sequences.name n = false →
                    db'.table? n = new.table? n := by
                cases numbered
                · cases h
                  exact ⟨rfl, fun _ _ => rfl⟩
                · cases h
                  exact ⟨hsequenceIndexes, hsequences⟩
              refine ⟨hfree, Bool.not_eq_true _ ▸ hreserved, hdistinct, hnew.1.trans hindexes,
                ⟨t, ?_, hname, hcolumns⟩, fun n hn hold => ?_⟩
              · rw [hnew.2 name (.inl (by rw [ht]; rfl)), ht]
              · rw [hnew.2 n (by rw [hothers n hn]; exact hold), hothers n hn]

/-! ### Columns -/

theorem distinctColumns_append {columns : List Column} {c : Column} (h : DistinctColumns columns)
    (hnew : column? columns c.name = none) : DistinctColumns (columns ++ [c]) := by
  rw [column?, List.find?_eq_none] at hnew
  rw [DistinctColumns, List.map_append, List.nodup_append]
  refine ⟨h, List.nodup_cons.2 ⟨List.not_mem_nil, List.nodup_nil⟩, fun a ha b hb e => ?_⟩
  obtain ⟨x, hx, rfl⟩ := List.mem_map.1 ha
  -- the only name that can be repeated is the new one
  obtain rfl : b = foldName c.name := List.mem_singleton.1 hb
  exact hnew x hx (sameName_iff.2 e)

theorem find?_withColumn (tables : List Table) (table n : String) (c : Column) :
    (withColumn tables table c).find? (fun t => sameName t.name n) =
      (tables.find? fun t => sameName t.name n).map fun t =>
        if sameName t.name table then appendColumn t c else t := by
  have hnames : ((fun t : Table => sameName t.name n) ∘ fun t =>
      if sameName t.name table then appendColumn t c else t) = fun t => sameName t.name n := by
    funext t
    by_cases h : sameName t.name table = true <;> simp [h]
  rw [withColumn, List.find?_map, hnames]

/-- **A column that is added** is the last one of its table; the other tables stay. -/
theorem addColumn_eq_ok {table : String} {c : Column} (h : db.addColumn table c = .ok db') :
    db'.indexes = db.indexes ∧
      (∃ t t', db.table? table = some t ∧ db'.table? table = some t' ∧ t'.name = t.name ∧
        t'.columns = t.columns ++ [c]) ∧
      ∀ n, sameName table n = false → db'.table? n = db.table? n := by
  unfold addColumn at h
  split at h
  · cases h
  next t ht =>
    split at h
    · cases h
    · split at h
      · cases h
      next hnew =>
        split at h
        · cases h
        · split at h
          · cases h
          · split at h
            · cases h
            · cases h
              have hdistinct : DistinctColumns (t.columns ++ [c]) :=
                distinctColumns_append t.distinct (by simpa using hnew)
              have hname := sameName_of_table? ht
              have hfind : ∀ n, (withColumn db.tables table c).find? (fun t => sameName t.name n) =
                  (db.table? n).map fun t =>
                    if sameName t.name table then appendColumn t c else t :=
                fun n => find?_withColumn db.tables table n c
              refine ⟨rfl, ⟨t, appendColumn t c, ht, ?_, name_appendColumn t c, ?_⟩, ?_⟩
              · refine (hfind table).trans ?_
                rw [ht, Option.map_some, if_pos hname]
              · rw [appendColumn, dif_pos hdistinct]
              · intro n hn
                refine (hfind n).trans ?_
                cases hother : db.table? n with
                | none => rfl
                | some u =>
                    have hu : sameName u.name table = false := by
                      rw [← Bool.not_eq_true]
                      intro hsame
                      have hback := sameName_trans (sameName_comm hsame) (sameName_of_table? hother)
                      rw [hback] at hn
                      cases hn
                    rw [Option.map_some, hu]
                    rfl

/-! ### Indexes -/

/-- **An index that is made** has a new name, and each of its parts reads a column of its table. -/
theorem createIndex_eq_ok {name table : String} {unique : Bool} {parts : List KeyPart}
    (h : db.createIndex name unique table parts = .ok db') :
    db'.tables = db.tables ∧ db.isTaken name = false ∧
      ∃ t, db.table? table = some t ∧ (∀ p ∈ parts, (resolvePart? t p).isSome) ∧
        db'.indexes = ⟨name, t.name, unique, parts.filterMap (resolvePart? t)⟩ :: db.indexes := by
  unfold createIndex at h
  split at h
  · cases h
  · split at h
    · cases h
    · split at h
      · cases h
      · split at h
        · cases h
        · split at h
          · cases h
          · split at h
            · cases h
            next t ht =>
              split at h
              · cases h
              next hparts =>
                split at h
                · cases h
                next hfree =>
                  cases h
                  refine ⟨rfl, Bool.not_eq_true _ ▸ hfree, t, ht, fun p hp => ?_, rfl⟩
                  have hresolved := List.find?_eq_none.1 hparts p hp
                  simpa [Option.isSome_iff_ne_none] using hresolved

/-- **An index that is dropped** was there, and the others stay. -/
theorem dropIndex_eq_ok {name : String} (h : db.dropIndex name = .ok db') :
    db'.tables = db.tables ∧ (db.index? name).isSome ∧
      db'.indexes = db.indexes.filter fun i => !sameName i.name name := by
  unfold dropIndex at h
  split at h
  · cases h
  next hthere =>
    cases h
    refine ⟨rfl, ?_, rfl⟩
    simpa [Option.isSome_iff_ne_none] using hthere

theorem table?_of_tables (h : db'.tables = db.tables) (n : String) :
    db'.table? n = db.table? n := by
  rw [table?, table?, h]

/-! ### What stays -/

/-- **A table and its indexes are the same in two databases.** -/
structure Keeps (db db' : Database) (name : String) : Prop where
  table : db'.table? name = db.table? name
  indexes : db'.indexesOf name = db.indexesOf name

theorem Keeps.refl (db : Database) (name : String) : Keeps db db name := ⟨rfl, rfl⟩

theorem Keeps.trans {db'' : Database} {name : String} (h : Keeps db db' name)
    (h' : Keeps db' db'' name) : Keeps db db'' name :=
  ⟨h'.table.trans h.table, h'.indexes.trans h.indexes⟩

/-- **The indexes of a name all belong to a table.** -/
def Owns (db : Database) (table name : String) : Prop :=
  ∀ i ∈ db.indexes, sameName i.name name = true → sameName i.table table = true

end Database

/-- **The commands that concern one table.**  An index is dropped by its name alone, so it is said
of the database that the name belongs to the table. -/
def Command.IsOf (table : String) : Command → Prop
  | createTable name _ _ _ => name = table
  | addColumn name _ => name = table
  | createIndex _ _ name _ => name = table
  | dropIndex _ => True
  | dropTable _ => False

/-- The index that a command drops. -/
def Command.dropped? : Command → Option String
  | dropIndex name => some name
  | createTable _ _ _ _ | addColumn _ _ | createIndex _ _ _ _ | dropTable _ => none

namespace Database

variable {db db' : Database}

/-- A command that concerns one table makes no index of a name that belongs to it another's. -/
theorem owns_run {c : Command} {table name : String} (hc : c.IsOf table)
    (h : c.run db = .ok db') (howns : db.Owns table name) : db'.Owns table name := by
  cases c with
  | createTable _ _ _ _ =>
      obtain ⟨-, -, -, hindexes, -⟩ := createTable_eq_ok h
      rwa [Owns, hindexes]
  | addColumn _ _ =>
      obtain ⟨hindexes, -⟩ := addColumn_eq_ok h
      rwa [Owns, hindexes]
  | createIndex index unique u parts =>
      obtain ⟨-, -, t, ht, -, hindexes⟩ := createIndex_eq_ok h
      intro i hi hname
      rw [hindexes] at hi
      rcases List.mem_cons.1 hi with rfl | hi
      · exact hc ▸ sameName_of_table? ht
      · exact howns i hi hname
  | dropIndex index =>
      obtain ⟨-, -, hindexes⟩ := dropIndex_eq_ok h
      intro i hi hname
      rw [hindexes] at hi
      exact howns i (List.mem_filter.1 hi).1 hname
  | dropTable _ => exact hc.elim

/-- **A command that concerns one table changes and makes no other**, except that the table of
sequences can be new. -/
theorem table?_run {c : Command} {table name : String} (hc : c.IsOf table)
    (h : c.run db = .ok db') (hname : sameName table name = false)
    (hold : (db.table? name).isSome = true ∨ sameName sequences.name name = false) :
    db'.table? name = db.table? name := by
  cases c with
  | createTable u columns numbered growth =>
      obtain ⟨-, -, -, -, -, hothers⟩ := createTable_eq_ok h
      obtain rfl : u = table := hc
      exact hothers name hname hold
  | addColumn u c =>
      obtain ⟨-, -, hothers⟩ := addColumn_eq_ok h
      obtain rfl : u = table := hc
      exact hothers name hname
  | createIndex index unique u parts => exact table?_of_tables (createIndex_eq_ok h).1 name
  | dropIndex index => exact table?_of_tables (dropIndex_eq_ok h).1 name
  | dropTable _ => exact hc.elim

theorem indexesOf_run {c : Command} {table name : String} (hc : c.IsOf table)
    (h : c.run db = .ok db') (howns : ∀ n, c.dropped? = some n → db.Owns table n)
    (hname : sameName table name = false) : db'.indexesOf name = db.indexesOf name := by
  cases c with
  | createTable u columns numbered growth =>
      obtain ⟨-, -, -, hindexes, -⟩ := createTable_eq_ok h
      rw [indexesOf, indexesOf, hindexes]
  | addColumn u c =>
      obtain ⟨hindexes, -⟩ := addColumn_eq_ok h
      rw [indexesOf, indexesOf, hindexes]
  | createIndex index unique u parts =>
      obtain ⟨-, -, t, ht, -, hindexes⟩ := createIndex_eq_ok h
      obtain rfl : u = table := hc
      have hother : sameName t.name name = false := by
        rw [sameName_congr (sameName_of_table? ht)]
        exact hname
      rw [indexesOf, indexesOf, hindexes, List.filter_cons_of_neg (by rw [hother]; decide)]
  | dropIndex index =>
      obtain ⟨-, -, hindexes⟩ := dropIndex_eq_ok h
      rw [indexesOf, indexesOf, hindexes, List.filter_filter]
      refine List.filter_congr fun i hi => ?_
      -- an index of the name that is dropped belongs to the table that is changed
      rcases Bool.eq_false_or_eq_true (sameName i.name index) with hsame | hother
      · have howned := howns index rfl i hi hsame
        have hi : sameName i.table name = false := by
          rw [sameName_congr howned]
          exact hname
        rw [hi, Bool.false_and]
      · rw [hother, Bool.not_false, Bool.and_true]
  | dropTable _ => exact hc.elim

/-- **A command that concerns one table keeps every other table that is there.** -/
theorem keeps_run {c : Command} {table name : String} (hc : c.IsOf table)
    (h : c.run db = .ok db') (howns : ∀ n, c.dropped? = some n → db.Owns table n)
    (hname : sameName table name = false) (hthere : (db.table? name).isSome = true) :
    Keeps db db' name :=
  ⟨table?_run hc h hname (.inl hthere), indexesOf_run hc h howns hname⟩

/-! ### Commands one after the other -/

/-- **Commands one after the other**, up to the first that fails. -/
def runCommands (db : Database) : List Command → Except SchemaError Unit × Database
  | [] => (.ok (), db)
  | c :: cs =>
      match c.run db with
      | .ok db' => db'.runCommands cs
      | .error e => (.error e, db)

@[simp] theorem runCommands_nil (db : Database) : db.runCommands [] = (.ok (), db) := rfl

theorem runCommands_cons_ok {c : Command} (h : c.run db = .ok db') (cs : List Command) :
    db.runCommands (c :: cs) = db'.runCommands cs := by
  rw [runCommands, h]

theorem runCommands_cons_error {c : Command} {e : SchemaError} (h : c.run db = .error e)
    (cs : List Command) : db.runCommands (c :: cs) = (.error e, db) := by
  rw [runCommands, h]

/-- **Commands that concern one table make no other**, except that the table of sequences can be
new. -/
theorem table?_runCommands {table name : String} {cs : List Command} (hcs : ∀ c ∈ cs, c.IsOf table)
    (hname : sameName table name = false) (hsequences : sameName sequences.name name = false) :
    (db.runCommands cs).2.table? name = db.table? name := by
  induction cs generalizing db with
  | nil => rfl
  | cons c cs ih =>
      cases hrun : c.run db with
      | error e => rw [runCommands_cons_error hrun]
      | ok db' =>
          rw [runCommands_cons_ok hrun, ih fun b hb => hcs b (List.mem_cons_of_mem _ hb)]
          exact table?_run (hcs c (List.mem_cons_self ..)) hrun hname (.inr hsequences)

/-- **Commands that concern one table keep every other table that is there**, also when one of them
fails. -/
theorem keeps_runCommands {table name : String} {cs : List Command} (hcs : ∀ c ∈ cs, c.IsOf table)
    (howns : ∀ c ∈ cs, ∀ n, c.dropped? = some n → db.Owns table n)
    (hname : sameName table name = false) (hthere : (db.table? name).isSome = true) :
    Keeps db (db.runCommands cs).2 name := by
  induction cs generalizing db with
  | nil => exact Keeps.refl db name
  | cons c cs ih =>
      cases hrun : c.run db with
      | error e =>
          rw [runCommands_cons_error hrun]
          exact Keeps.refl db name
      | ok db' =>
          have hc := hcs c (List.mem_cons_self ..)
          have hkeeps := keeps_run hc hrun (howns c (List.mem_cons_self ..)) hname hthere
          rw [runCommands_cons_ok hrun]
          refine hkeeps.trans (ih (fun b hb => hcs b (List.mem_cons_of_mem _ hb)) ?_ ?_)
          · exact fun b hb n hn => owns_run hc hrun (howns b (List.mem_cons_of_mem _ hb) n hn)
          · rw [hkeeps.table]
            exact hthere

end Database

end Sqlite

end Conform

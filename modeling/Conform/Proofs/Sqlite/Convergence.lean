/-
**A second run over the same definitions finds nothing to do.**

Once the sync of a table has succeeded, a plan for what is reported of the table is idle.  What is
reported does not change while other definitions are synced, whether they succeed or fail: their
commands are on other tables, and the indexes that they drop belong to those.  A definition whose
name differs in letter case only cannot be carried out at all.

One thing can come between: a table that has the name of one that the report is looked up in.  Then
no table is reported any more, and every sync of a table that is there fails.

Main definitions:

* `Outcome.IsIdle` — that a sync did nothing;
* `Sqlite.Converged` — that a plan for a table that is there would be idle;
* `Sqlite.syncedOn` — the database after a list of definitions is synced;
* `Sqlite.Rests` — **that the sync of a table finds nothing to do**;
* `Sqlite.again` — where a definition is synced in the second of two runs.

Main results:

* `Sqlite.keeps_syncOn`, `Sqlite.keeps_syncedOn` — **a sync keeps every table of another name**;
* `Sqlite.resync_rests_iff` — **in a second run the sync of a table that was synced finds nothing to
  do, unless the tables that are asked are hidden**.
-/

import Conform.Proofs.Sqlite.Effect
import Conform.Proofs.Sqlite.IndexDrops
import Conform.Sync.Run

set_option relaxedAutoImplicit false
set_option autoImplicit false

namespace Conform

/-- **An outcome of nothing**: the plan is not to be carried out, nothing was sent, and no new
table, column or index and no dropped one is counted. -/
structure Outcome.IsIdle (out : Outcome) : Prop where
  changed : out.plan.changed = false
  statements : out.statements = []
  columnsAdded : out.counters.columnsAdded = 0
  indexesCreated : out.counters.indexesCreated = 0
  indexesDropped : out.counters.indexesDropped = 0
  tablesCreated : out.counters.tablesCreated = 0

namespace Sqlite

open Database

variable {db db' : Database} {o : Options} {t u : Definition}

/-! ### One definition and another table -/

theorem Database.Keeps.hasTable {name : String} (h : Keeps db db' name) :
    db'.hasTable name = db.hasTable name := by
  rw [Bool.eq_iff_iff, hasTable_iff, hasTable_iff, h.table]

/-- A table that is there is not made again. -/
theorem createTable_of_there {name : String} (h : (db.table? name).isSome = true)
    (columns : List Column) (numbered : Bool) (growth : Growth) :
    ∃ e, (Command.createTable name columns numbered growth).run db = .error e := by
  cases hmade : (Command.createTable name columns numbered growth).run db with
  | error e => exact ⟨e, rfl⟩
  | ok db' =>
      obtain ⟨hfree, -⟩ := createTable_eq_ok hmade
      rw [(isTaken_eq_false_iff.1 hfree).1] at h
      cases h

/-- The commands of a plan are on its table, and the indexes that they drop belong to it. -/
theorem isOf_of_planOn {fields : List Field} {p : Planned} (h : planOn db o t fields = .ok p) :
    ∀ c ∈ commandsOf p.plan.statements,
      c.IsOf t.table ∧ ∀ n, c.dropped? = some n → db.Owns t.table n := by
  intro c hc
  obtain ⟨st, hst, hcommand⟩ := List.mem_filterMap.1 hc
  obtain ⟨c', hc', hof, hdropped⟩ := commands_of_planOn h st hst
  obtain rfl : c = c' := Option.some.inj (hcommand.symm.trans hc')
  refine ⟨hof, fun n hn i hi hname => ?_⟩
  obtain ⟨key, hdrop⟩ := hdropped n hn
  obtain ⟨-, -, -, j, hj, hjname, htable, -⟩ := (drop_mem_planOn_iff h).1 hdrop
  rw [index_eq_of_sameName hi hj (by rw [hjname]; exact hname)]
  exact htable

/-- **A sync keeps every table of another name that is there**, also when it fails. -/
theorem keeps_syncOn {name : String} (hne : u.table ≠ name) (hthere : db.hasTable name = true)
    (o : Options) : Keeps db (syncOn db o u).2 name := by
  obtain ⟨v, hv, hspelled⟩ := hasTable_iff.1 hthere
  rcases syncOn_snd db o u with hsame | ⟨fields, p, -, hplan, hrun⟩
  · rw [hsame]
    exact Keeps.refl db name
  rw [hrun]
  rcases Bool.eq_false_or_eq_true (sameName u.table name) with hname | hname
  · -- the names differ in letter case only: the table cannot be made, so nothing changes
    have htable : db.table? u.table = some v := (table?_congr hname).trans hv
    rcases planOn_eq_ok_iff.1 hplan with ⟨-, rfl⟩ | ⟨hother, -⟩
    · obtain ⟨e, he⟩ := createTable_of_there (by rw [htable]; rfl)
        (newColumns (fields.map (·.column .sqlite))) true .free
      rw [statements_planNewTable_sqlite, commandsOf_cons rfl, runCommands_cons_error he]
      exact Keeps.refl db name
    · obtain ⟨w, hw, hwname⟩ := hasTable_iff.1 hother
      obtain rfl : v = w := Option.some.inj (htable.symm.trans hw)
      exact absurd (hwname.symm.trans hspelled) hne
  · exact keeps_runCommands (fun c hc => (isOf_of_planOn hplan c hc).1)
      (fun c hc => (isOf_of_planOn hplan c hc).2) hname (by rw [hv]; rfl)

/-- A sync makes no table but its own, except that the table of sequences can be new. -/
theorem table?_syncOn {name : String} (hname : sameName u.table name = false)
    (hsequences : sameName sequences.name name = false) (db : Database) (o : Options) :
    (syncOn db o u).2.table? name = db.table? name := by
  rcases syncOn_snd db o u with hsame | ⟨fields, p, -, hplan, hrun⟩
  · rw [hsame]
  · rw [hrun]
    exact table?_runCommands (fun c hc => (isOf_of_planOn hplan c hc).1) hname hsequences

/-! ### Lists of definitions -/

/-- **The database after a list of definitions is synced**, one after the other. -/
def syncedOn (db : Database) (o : Options) (ts : List Definition) : Database :=
  ts.foldl (fun db t => (syncOn db o t).2) db

@[simp] theorem syncedOn_cons (db : Database) (o : Options) (t : Definition)
    (ts : List Definition) :
    syncedOn db o (t :: ts) = syncedOn (syncOn db o t).2 o ts := rfl

theorem syncedOn_append (db : Database) (o : Options) (ts ts' : List Definition) :
    syncedOn db o (ts ++ ts') = syncedOn (syncedOn db o ts) o ts' := List.foldl_append

theorem state_syncStep (o : Options) (run : Summary × Journal Database) (t : Definition) :
    (syncStep backend o run t).2.state = (syncOn run.2.state o t).2 := by
  obtain ⟨log, hrun⟩ := run_syncTable o t run.2
  unfold syncStep
  rw [hrun]
  cases (syncOn run.2.state o t).1 <;> rfl

/-- **A run changes the database as its syncs do**, one after the other. -/
theorem state_syncAll (o : Options) (ts : List Definition) (j : Journal Database) :
    (syncAll backend o ts j).2.state = syncedOn j.state o ts := by
  -- the summary is threaded along, so the statement is on every start of the fold
  have hfold : ∀ run : Summary × Journal Database,
      (ts.foldl (syncStep backend o) run).2.state = syncedOn run.2.state o ts := by
    induction ts with
    | nil => exact fun _ => rfl
    | cons t ts ih =>
        intro run
        rw [List.foldl_cons, ih, state_syncStep, syncedOn_cons]
  exact hfold _

/-- **Syncs keep every table of another name that is there.** -/
theorem keeps_syncedOn {name : String} {ts : List Definition} (hne : ∀ u ∈ ts, u.table ≠ name)
    (hthere : db.hasTable name = true) (o : Options) : Keeps db (syncedOn db o ts) name := by
  induction ts generalizing db with
  | nil => exact Keeps.refl db name
  | cons u ts ih =>
      have hkeeps := keeps_syncOn (hne u (List.mem_cons_self ..)) hthere o
      rw [syncedOn_cons]
      refine hkeeps.trans (ih (fun v hv => hne v (List.mem_cons_of_mem _ hv)) ?_)
      rw [hkeeps.hasTable]
      exact hthere

theorem table?_syncedOn {name : String} {ts : List Definition}
    (hname : ∀ u ∈ ts, sameName u.table name = false)
    (hsequences : sameName sequences.name name = false) (db : Database) (o : Options) :
    (syncedOn db o ts).table? name = db.table? name := by
  induction ts generalizing db with
  | nil => rfl
  | cons u ts ih =>
      rw [syncedOn_cons, ih fun v hv => hname v (List.mem_cons_of_mem _ hv)]
      exact table?_syncOn (hname u (List.mem_cons_self ..)) hsequences db o

/-! ### A table that was synced -/

/-- **That a plan for a table that is there would be idle.** -/
def Converged (db : Database) (o : Options) (t : Definition) : Prop :=
  db.hasTable t.table = true ∧ ∃ fields s p, t.readFields .sqlite = .ok fields ∧
    db.reported? t.table = some s ∧ planLiveTable .sqlite o t.table fields s = .ok p ∧ p.IsIdle

/-- **A sync that succeeds leaves its table converged.** -/
theorem converged_of_syncOn (hplan : o.planOnly = false) {out : Outcome}
    (h : syncOn db o t = (.ok out, db')) : Converged db' o t := by
  obtain ⟨fields, p, hread, hplanned, hrun, -⟩ := (syncOn_eq_ok_iff hplan).1 h
  obtain ⟨hthere, s, p', hs, hp', hidle⟩ := replan_of_planOn hread hplanned hrun
  exact ⟨hthere, fields, s, p', hread, hs, hp', hidle⟩

theorem Converged.of_keeps (h : Converged db o t) (hkeeps : Keeps db db' t.table) :
    Converged db' o t := by
  obtain ⟨hthere, fields, s, p, hread, hs, hp⟩ := h
  exact ⟨hkeeps.hasTable.trans hthere, fields, s, p, hread, hkeeps.reported?.trans hs, hp⟩

/-- **That the sync of a table finds nothing to do**: it succeeds, with an outcome of nothing, and
the database stays as it is. -/
def Rests (o : Options) (t : Definition) (j : Journal Database) : Prop :=
  ∃ out log, (syncTable backend o t).run j = (.ok out, ⟨j.state, log⟩) ∧ out.IsIdle

/-- A sync that finds nothing to do succeeds on the database. -/
theorem Rests.syncOn_eq {j : Journal Database} (h : Rests o t j) :
    ∃ out, syncOn j.state o t = (.ok out, j.state) := by
  obtain ⟨out, log, hrun, -⟩ := h
  obtain ⟨log', hrun'⟩ := run_syncTable o t j
  obtain ⟨hresult, hjournal⟩ := Prod.mk.inj (hrun'.symm.trans hrun)
  exact ⟨out, Prod.ext hresult (congrArg Journal.state hjournal)⟩

/-- **The sync of a converged table finds nothing to do**, unless the tables that are asked are
hidden; then it fails. -/
theorem Converged.rests_iff (hplan : o.planOnly = false) {j : Journal Database}
    (h : Converged j.state o t) :
    Rests o t j ↔ j.state.hides (Builtin.columnSource ++ Builtin.indexSource) = false := by
  obtain ⟨hthere, fields, s, p, hread, hs, hp, hidle⟩ := h
  constructor
  · intro hrests
    -- a sync that succeeds was planned, so its table could be asked for
    obtain ⟨out, hsync⟩ := hrests.syncOn_eq
    obtain ⟨fields', p', -, hplanned, -⟩ := (syncOn_eq_ok_iff hplan).1 hsync
    rcases planOn_eq_ok_iff.1 hplanned with ⟨habsent, -⟩ | ⟨-, hasked, -⟩
    · rw [hthere] at habsent
      cases habsent
    · exact hasked
  · intro hasked
    have hplanned : planOn j.state o t fields = .ok p :=
      planOn_eq_ok_iff.2 (.inr ⟨hthere, hasked, s, hs, hp⟩)
    have hnone : p.plan.statements = [] := by
      have hchanged := (changed_of_planOn hplanned).2
      rw [hidle.changed] at hchanged
      exact Classical.not_not.1 fun hsome => Bool.false_ne_true (hchanged.2 hsome)
    obtain ⟨log, hrun⟩ := run_syncTable o t j
    have hsync : syncOn j.state o t = (.ok ⟨p.plan.write .sqlite o.engine, p.counters,
        p.plan.statements.map (·.write .sqlite o.engine)⟩, j.state) :=
      (syncOn_eq_ok_iff hplan).2 ⟨fields, p, hread, hplanned, by rw [hnone]; rfl, rfl⟩
    rw [hsync] at hrun
    exact ⟨_, log, hrun, hidle.changed, by rw [hnone]; rfl, hidle.columnsAdded,
      hidle.indexesCreated, hidle.indexesDropped, hidle.tablesCreated⟩

/-! ### Two runs -/

/-- The database does not hide the tables that are asked, if none of its tables has such a name and
none of the definitions that are synced. -/
theorem hides_syncedOn {ts : List Definition}
    (hnames : ∀ source ∈ Builtin.columnSource ++ Builtin.indexSource,
      db.table? source = none ∧ ∀ u ∈ ts, sameName u.table source = false) (o : Options) :
    (syncedOn db o ts).hides (Builtin.columnSource ++ Builtin.indexSource) = false := by
  refine hides_eq_false_iff.2 fun source hsource => ?_
  obtain ⟨hnone, hother⟩ := hnames source hsource
  rw [table?_syncedOn hother (sequences_ne_source hsource), hnone]

/-- **Where a definition is synced in the second of two runs**: after the first run, and after the
earlier definitions of the second. -/
def again (o : Options) (earlier : List Definition) (t : Definition) (later : List Definition)
    (j : Journal Database) : Journal Database :=
  (syncAll backend o earlier (syncAll backend o (earlier ++ t :: later) j).2).2

theorem state_again (o : Options) (earlier : List Definition) (t : Definition)
    (later : List Definition) (j : Journal Database) :
    (again o earlier t later j).state =
      syncedOn j.state o ((earlier ++ t :: later) ++ earlier) := by
  rw [again, state_syncAll, state_syncAll, ← syncedOn_append]

/-- **In a second run the sync of a table that was synced finds nothing to do, unless the tables
that are asked are hidden.**  The name of the table is that of one definition only, whose sync
succeeded in the first run; the other definitions may do anything, or fail.  No table that is asked
is hidden if neither the database nor a definition had its name in the first place. -/
theorem resync_rests_iff (hplan : o.planOnly = false) {earlier later : List Definition}
    (honce : ∀ u ∈ earlier ++ later, u.table ≠ t.table) {j j' : Journal Database} {out : Outcome}
    (hfirst : (syncTable backend o t).run (syncAll backend o earlier j).2 = (.ok out, j')) :
    (Rests o t (again o earlier t later j) ↔
      (again o earlier t later j).state.hides
        (Builtin.columnSource ++ Builtin.indexSource) = false) ∧
    ((∀ source ∈ Builtin.columnSource ++ Builtin.indexSource, j.state.table? source = none ∧
        ∀ u ∈ earlier ++ t :: later, sameName u.table source = false) →
      Rests o t (again o earlier t later j)) := by
  obtain ⟨db, hsync⟩ : ∃ db, syncOn (syncedOn j.state o earlier) o t = (.ok out, db) := by
    obtain ⟨log, hrun⟩ := run_syncTable o t (syncAll backend o earlier j).2
    rw [hfirst, state_syncAll] at hrun
    exact ⟨_, Prod.ext (congrArg Prod.fst hrun).symm rfl⟩
  have hconverged : Converged (again o earlier t later j).state o t := by
    rw [state_again, syncedOn_append, syncedOn_append, syncedOn_cons, hsync]
    -- from its first sync on, neither the later definitions nor the earlier ones touch the table
    have hdone := converged_of_syncOn hplan hsync
    have hlater := hdone.of_keeps
      (keeps_syncedOn (fun u hu => honce u (List.mem_append_right _ hu)) hdone.1 o)
    exact hlater.of_keeps
      (keeps_syncedOn (fun u hu => honce u (List.mem_append_left _ hu)) hlater.1 o)
  refine ⟨hconverged.rests_iff hplan, fun hnames => (hconverged.rests_iff hplan).2 ?_⟩
  rw [state_again]
  refine hides_syncedOn (fun source hsource => ⟨(hnames source hsource).1, fun u hu => ?_⟩) o
  rcases List.mem_append.1 hu with hu | hu
  · exact (hnames source hsource).2 u hu
  · exact (hnames source hsource).2 u (List.mem_append_left _ hu)

/-- A table whose name differs from that of the table of users in letter case only. -/
def capitalUsers : Definition := ⟨"USER", none, []⟩

/-- A table that has the name of one that indexes are asked of. -/
def hidingTable : Definition := ⟨"pragma_index_list", none, []⟩

/-- The first sync of a table in an empty database, when it succeeds. -/
theorem run_syncTable_empty {t : Definition}
    (h : (syncOn .empty {} t).1.toOption.isSome = true) :
    ∃ out j', (syncTable backend {} t).run (syncAll backend {} [] ⟨.empty, []⟩).2 =
      (.ok out, j') := by
  obtain ⟨out, j', hrun, -⟩ := run_of_isSome (j := ⟨.empty, []⟩) h
  exact ⟨out, j', hrun⟩

/-- Users rest in a second run, though the other table cannot be made beside theirs. -/
theorem users_rest :
    Rests {} users (again {} [] users [capitalUsers] ⟨.empty, []⟩) := by
  have honce : ∀ u ∈ [] ++ [capitalUsers], u.table ≠ users.table := by decide +kernel
  have hnames : ∀ source ∈ Builtin.columnSource ++ Builtin.indexSource,
      ∀ u ∈ [] ++ users :: [capitalUsers], sameName u.table source = false := by decide +kernel
  obtain ⟨out, j', hfirst⟩ := run_syncTable_empty (t := users) (by decide +kernel)
  exact (resync_rests_iff rfl honce hfirst).2 fun source hsource => ⟨rfl, hnames source hsource⟩

/-- **A table that hides what indexes are asked of does not rest**: it is made, and after that
no sync of it can be planned. -/
theorem hidingTable_fails :
    ¬ ∀ (o : Options) (earlier later : List Definition) (t : Definition) (j j' : Journal Database)
        (out : Outcome), o.planOnly = false → (∀ u ∈ earlier ++ later, u.table ≠ t.table) →
          (syncTable backend o t).run (syncAll backend o earlier j).2 = (.ok out, j') →
            Rests o t (again o earlier t later j) := by
  intro hclaim
  obtain ⟨out, j', hfirst⟩ := run_syncTable_empty (t := hidingTable) (by decide +kernel)
  have hrests := hclaim {} [] [] hidingTable _ j' out rfl
    (fun _ hu => absurd hu List.not_mem_nil) hfirst
  obtain ⟨out', hagain⟩ := hrests.syncOn_eq
  rw [state_again, List.nil_append, List.append_nil] at hagain
  have hfailed : (syncOn (syncedOn .empty {} [hidingTable]) {} hidingTable).1.toOption = none := by
    decide +kernel
  rw [hagain] at hfailed
  cases hfailed

end Sqlite

end Conform

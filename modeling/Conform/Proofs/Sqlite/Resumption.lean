/-
**Resuming after an interruption.**

The statements of a plan are executed one after the other, and the run may end after any of them.
A new sync then plans what is left: the columns that were added are found, the indexes that were
made are found, and a table that was made is planned as one that is there, with the indexes that it
still wants.  So the new sync executes exactly the other statements, and it ends in the database
that the first run would have reached.

It needs introspection for that.  A table that was there has been asked for already; but where the
table was made, and it or another table hides introspection, an interrupted run cannot be resumed.

Main definitions:

* `Sqlite.wanted` — the statements that a report is planned with;
* `Sqlite.Wants` — **that a table is there and that certain statements are left for it**.

Main results:

* `Sqlite.wanted_apply` — after the first of the statements the others are wanted;
* `Sqlite.Wants.step`, `Sqlite.Wants.run` — **what is left after one command, and after some**;
* `Sqlite.planOn_of_wants` — a table is planned with what is left for it;
* `Sqlite.resumed_iff` — **when an interrupted run can be resumed, and where that ends**.
-/

import Conform.Proofs.Plan.Remainder
import Conform.Proofs.Sqlite.Growth
import Conform.Proofs.Sqlite.PlanRuns
import Mathlib.Data.List.Nodup

set_option relaxedAutoImplicit false
set_option autoImplicit false

namespace Conform

namespace Sqlite

open Database

variable {db db' : Database} {o : Options} {t : Definition} {fields : List Field} {p : Planned}
  {table : String} {s : Snapshot} {st : Statement} {sts : List Statement}

/-! ### What a report wants -/

/-- **The statements that a report is planned with**: new columns, then index changes. -/
def wanted (table : String) (s : Snapshot) (fields : List Field) : List Statement :=
  (missing s fields).map (fun f => .alterTable table (.addColumn (f.column .sqlite))) ++
    (indexChanges table s (fields.map (·.column .sqlite))).map (·.statement table)

/-- Every statement that is wanted is a command on the table. -/
theorem command?_of_mem_wanted (h : st ∈ wanted table s fields) :
    ∃ c, st.command? = some c ∧ c.IsOf table := by
  rcases List.mem_append.1 h with h | h
  · obtain ⟨f, -, rfl⟩ := List.mem_map.1 h
    exact ⟨_, rfl, rfl⟩
  · obtain ⟨a, -, rfl⟩ := List.mem_map.1 h
    obtain ⟨c, hc, hof, -⟩ := command?_indexChange table a
    exact ⟨c, hc, hof⟩

/-- **The first statement that is wanted** is a new column, or else an index change. -/
theorem wanted_eq_cons (h : wanted table s fields = st :: sts) :
    (∃ f fs, missing s fields = f :: fs ∧ st = .alterTable table (.addColumn (f.column .sqlite)) ∧
      sts = fs.map (fun f => .alterTable table (.addColumn (f.column .sqlite))) ++
        (indexChanges table s (fields.map (·.column .sqlite))).map (·.statement table)) ∨
    (missing s fields = [] ∧ ∃ a changes,
      indexChanges table s (fields.map (·.column .sqlite)) = a :: changes ∧
        st = a.statement table ∧ sts = changes.map (·.statement table)) := by
  rw [wanted] at h
  cases hmissing : missing s fields with
  | cons f fs =>
      rw [hmissing, List.map_cons, List.cons_append] at h
      obtain ⟨rfl, rfl⟩ := List.cons.inj h
      exact .inl ⟨f, fs, rfl, rfl, rfl⟩
  | nil =>
      rw [hmissing, List.map_nil, List.nil_append] at h
      cases hchanges : indexChanges table s (fields.map (·.column .sqlite)) with
      | nil =>
          rw [hchanges] at h
          cases h
      | cons a changes =>
          rw [hchanges] at h
          obtain ⟨rfl, rfl⟩ := List.cons.inj h
          exact .inr ⟨rfl, a, changes, rfl, rfl, rfl⟩

/-! ### After one statement -/

/-- The columns that are reported after a column was added. -/
theorem getElem?_columns_addColumn (c : Conform.Column) (key : String) :
    (s.apply reporting (.alterTable table (.addColumn c))).columns[key]? =
      if c.key = key then some (reporting.column c) else s.columns[key]? := by
  rw [Snapshot.getElem?_columns_apply rfl]
  by_cases hkey : c.key = key <;>
    simp [Statement.concerns, Statement.column?, Clause.key, Reporting.effect, hkey]

/-- After a column was added the others are missing. -/
theorem missing_addColumn (f : Field) :
    missing (s.apply reporting (.alterTable table (.addColumn (f.column .sqlite)))) fields =
      (missing s fields).filter fun g => g.key ≠ f.key := by
  rw [missing, missing, List.filter_filter]
  refine List.filter_congr fun g _ => ?_
  rw [getElem?_columns_addColumn, Field.key_column]
  by_cases hkey : f.key = g.key
  · simp [hkey]
  · simp [hkey, Ne.symm hkey]

/-- A new column takes no index change away. -/
theorem indexChanges_addColumn (hfields : Declared .sqlite fields) {f : Field} (hf : f ∈ fields) :
    indexChanges table (s.apply reporting (.alterTable table (.addColumn (f.column .sqlite))))
        (fields.map (·.column .sqlite)) =
      indexChanges table s (fields.map (·.column .sqlite)) := by
  have hindexes : (s.apply reporting
      (.alterTable table (.addColumn (f.column .sqlite)))).indexes = s.indexes := rfl
  refine indexChanges_congr hindexes (fun key hkey => ?_) _
  have hother : f.key ≠ key := fun e => hfields.free f hf (e ▸ systemIndexKeys_subset hkey)
  rw [contains_iff, contains_iff, getElem?_columns_addColumn, Field.key_column, if_neg hother]

/-- **After the first of the statements that are wanted the others are wanted.** -/
theorem wanted_apply (hfields : Declared .sqlite fields) (h : wanted table s fields = st :: sts) :
    wanted table (s.apply reporting st) fields = sts := by
  rcases wanted_eq_cons h with
    ⟨f, fs, hmissing, rfl, rfl⟩ | ⟨hmissing, a, changes, hchanges, rfl, rfl⟩
  · have hf : f ∈ fields := by
      have hmem : f ∈ missing s fields := hmissing ▸ List.mem_cons_self ..
      exact (List.mem_filter.1 hmem).1
    -- the keys are different, so that only the first of the missing columns is there now
    have hdistinct : ((f :: fs).map (·.key)).Nodup :=
      hmissing ▸ hfields.distinct.sublist (List.filter_sublist.map _)
    have hrest : missing (s.apply reporting (.alterTable table (.addColumn (f.column .sqlite))))
        fields = fs := by
      rw [missing_addColumn, hmissing, List.filter_cons_of_neg (by simp)]
      refine List.filter_eq_self.2 fun g hg => decide_eq_true fun e => ?_
      exact (List.nodup_cons.1 hdistinct).1 (List.mem_map.2 ⟨g, hg, e⟩)
    rw [wanted, hrest, indexChanges_addColumn hfields hf]
  · have hcolumns : (s.apply reporting (a.statement table)).columns = s.columns :=
      Snapshot.columns_applyAll_changes table [a]
    have ha : a ∈ indexChanges table s (fields.map (·.column .sqlite)) :=
      hchanges ▸ List.mem_cons_self ..
    have hdistinct : (a :: changes).Nodup :=
      hchanges ▸ List.Nodup.of_map _ (indexChanges_nodup hfields)
    have hrest : (a :: changes).filter (fun b => b ≠ a) = changes := by
      rw [List.filter_cons_of_neg (by simp)]
      refine List.filter_eq_self.2 fun b hb => decide_eq_true fun e => ?_
      exact (List.nodup_cons.1 hdistinct).1 (e ▸ hb)
    have hnone : missing (s.apply reporting (a.statement table)) fields = [] := by
      rw [← hmissing, missing, missing, hcolumns]
    rw [wanted, hnone, indexChanges_apply reporting hfields ha, hchanges, hrest]
    rfl

/-- After the first of the statements that are wanted no field is in conflict that was not. -/
theorem free_apply (hfields : Declared .sqlite fields) (h : wanted table s fields = st :: sts)
    (hfree : ∀ f ∈ fields, ∀ live, ¬f.Clashes .sqlite s live) :
    ∀ f ∈ fields, ∀ live, ¬f.Clashes .sqlite (s.apply reporting st) live := by
  intro g hg live
  rcases wanted_eq_cons h with ⟨f, fs, hmissing, rfl, -⟩ | ⟨-, a, changes, -, rfl, -⟩
  · by_cases hkey : f.key = g.key
    · have hf : f ∈ fields := by
        have hmem : f ∈ missing s fields := hmissing ▸ List.mem_cons_self ..
        exact (List.mem_filter.1 hmem).1
      obtain rfl := hfields.eq_of_key hf hg hkey
      exact not_clashes_of_shows (reporting_shows_field hfields hg)
        (by rw [getElem?_columns_addColumn]; exact if_pos rfl) live
    · intro ⟨hlive, hconflict⟩
      rw [getElem?_columns_addColumn, Field.key_column, if_neg hkey] at hlive
      exact hfree g hg live ⟨hlive, hconflict⟩
  · have hcolumns : (s.apply reporting (a.statement table)).columns = s.columns :=
      Snapshot.columns_applyAll_changes table [a]
    intro ⟨hlive, hconflict⟩
    rw [hcolumns] at hlive
    exact hfree g hg live ⟨hlive, hconflict⟩

/-! ### What is left for a table -/

/-- **That a table is there and that certain statements are left for it**: they are what its report
wants, and no field is in conflict with it. -/
def Wants (db : Database) (table : String) (fields : List Field) (sts : List Statement) : Prop :=
  db.hasTable table = true ∧ ∃ s, db.reported? table = some s ∧
    (∀ f ∈ fields, ∀ live, ¬f.Clashes .sqlite s live) ∧ wanted table s fields = sts

/-- **After the command of the first statement the others are left.** -/
theorem Wants.step (hfields : Declared .sqlite fields) {c : Command}
    (h : Wants db table fields (st :: sts)) (hc : st.command? = some c)
    (hrun : c.run db = .ok db') : Wants db' table fields sts := by
  obtain ⟨hthere, s, hs, hfree, hwanted⟩ := h
  have hstep : db'.hasTable table = true ∧ db'.reported? table = some (s.apply reporting st) := by
    rcases wanted_eq_cons hwanted with
      ⟨f, fs, -, rfl, -⟩ | ⟨hmissing, a, changes, hchanges, rfl, -⟩
    · obtain rfl := Option.some.inj hc
      obtain ⟨-, ⟨u, u', hu, hu', hname, -⟩, -⟩ := addColumn_eq_ok hrun
      obtain ⟨v, hv, hexact⟩ := hasTable_iff.1 hthere
      obtain rfl : u = v := Option.some.inj (hu.symm.trans hv)
      exact ⟨hasTable_iff.2 ⟨u', hu', hname.trans hexact⟩, reported?_addColumn hrun hs⟩
    · -- no column is missing, so that the index changes are about columns that are there
      have hcolumns : ∀ f ∈ fields, s.columns.contains f.key = true := by
        intro f hf
        rw [contains_iff]
        simpa using List.filter_eq_nil_iff.1 hmissing f hf
      have hready : Ready db table (a :: changes) :=
        hchanges ▸ ready_indexChanges hfields hs hs rfl hcolumns fun _ _ hcolumn => hcolumn
      obtain ⟨htables, hreported⟩ := hready.reported?_head hc hrun hs
      refine ⟨?_, hreported⟩
      rwa [Database.hasTable, htables]
  exact ⟨hstep.1, _, hstep.2, free_apply hfields hwanted hfree, wanted_apply hfields hwanted⟩

/-- **After the commands of some statements the others are left.** -/
theorem Wants.run (hfields : Declared .sqlite fields) {done : List Statement}
    (h : Wants db table fields (done ++ sts))
    (hrun : db.runCommands (commandsOf done) = (.ok (), db')) : Wants db' table fields sts := by
  induction done generalizing db with
  | nil =>
      cases hrun
      exact h
  | cons st done ih =>
      obtain ⟨-, s, -, -, hwanted⟩ := id h
      have hmem : st ∈ wanted table s fields := hwanted ▸ List.mem_cons_self ..
      obtain ⟨c, hc, -⟩ := command?_of_mem_wanted hmem
      rw [commandsOf_cons hc, runCommands_cons_eq_ok_iff] at hrun
      obtain ⟨mid, hfirst, hrest⟩ := hrun
      exact ih (h.step hfields hc hfirst) hrest

/-- **For a table that was just made the indexes that it is made with are left.** -/
theorem wants_of_createTable (hfields : Declared .sqlite fields) (comment : Option String)
    {c : Command}
    (hc : (Statement.createTable table (fields.map (·.column .sqlite)) comment).command? = some c)
    (hrun : c.run db = .ok db') :
    Wants db' table fields
      (((createIndexKeys (fields.map (·.column .sqlite))).map (createIndexOf table)).map
        (·.statement table)) := by
  obtain rfl := Option.some.inj hc
  obtain ⟨-, -, -, -, ⟨u, hu, hname, -⟩, -⟩ := createTable_eq_ok hrun
  have happlied : db'.reported? table = some (Snapshot.apply reporting ⟨∅, ∅⟩
      (.createTable table (fields.map (·.column .sqlite)) comment)) := reported?_createTable hrun
  have hreported : db'.reported? table = some
      ⟨reporting.newTable (fields.map (·.column .sqlite)), ∅⟩ := happlied
  have hcolumns : ∀ f ∈ fields, (reporting.newTable (fields.map (·.column .sqlite)))[f.key]? =
      some (reporting.column (f.column .sqlite)) := fun f hf => getElem?_newTable hfields hf
  refine ⟨hasTable_iff.2 ⟨u, hu, hname⟩, _, hreported, fun f hf live => ?_, ?_⟩
  · exact not_clashes_of_shows (reporting_shows_field hfields hf) (hcolumns f hf) live
  · have hnone : missing ⟨reporting.newTable (fields.map (·.column .sqlite)), ∅⟩ fields = [] := by
      refine List.filter_eq_nil_iff.2 fun f hf => ?_
      rw [hcolumns f hf]
      exact Bool.false_ne_true
    rw [wanted, hnone, indexChanges_newTable]
    rfl

/-! ### Planning again -/

/-- A plan for a table that is there is what is left for it. -/
theorem wants_of_planOn (h : planOn db o t fields = .ok p) (hthere : db.hasTable t.table = true) :
    Wants db t.table fields p.plan.statements := by
  rcases planOn_eq_ok_iff.1 h with ⟨habsent, -⟩ | ⟨-, -, s, hs, hplan⟩
  · rw [hthere] at habsent
    cases habsent
  · exact ⟨hthere, s, hs, plans_iff_free.1 ⟨p, hplan⟩, (statements_planLiveTable hplan).symm⟩

/-- **A table is planned with what is left for it**, where introspection is not hidden. -/
theorem planOn_of_wants (h : Wants db t.table fields sts) (o : Options) :
    (∃ p, planOn db o t fields = .ok p) ↔
      db.hides (Builtin.columnSource ++ Builtin.indexSource) = false := by
  obtain ⟨hthere, s, hs, hfree, -⟩ := h
  constructor
  · rintro ⟨p, hp⟩
    rcases planOn_eq_ok_iff.1 hp with ⟨habsent, -⟩ | ⟨-, hasked, -⟩
    · rw [hthere] at habsent
      cases habsent
    · exact hasked
  · intro hasked
    obtain ⟨p, hp⟩ : ∃ p, planLiveTable .sqlite o t.table fields s = .ok p :=
      plans_iff_free.2 hfree
    exact ⟨p, planOn_eq_ok_iff.2 (.inr ⟨hthere, hasked, s, hs, hp⟩)⟩

theorem statements_of_wants (h : Wants db t.table fields sts)
    (hplan : planOn db o t fields = .ok p) : p.plan.statements = sts := by
  obtain ⟨-, s, hs, -, hwanted⟩ := wants_of_planOn hplan h.1
  obtain ⟨-, s', hs', -, rfl⟩ := h
  rw [← hwanted, Option.some.inj (hs.symm.trans hs')]

/-! ### Where introspection is hidden -/

/-- Commands on a table hide no introspection, if it is not of a name that does. -/
theorem hides_runCommands {cs : List Command} (hcs : ∀ c ∈ cs, c.IsOf table)
    (hnames : ∀ source ∈ Builtin.columnSource ++ Builtin.indexSource,
      db.table? source = none ∧ sameName table source = false) :
    (db.runCommands cs).2.hides (Builtin.columnSource ++ Builtin.indexSource) = false := by
  refine hides_eq_false_iff.2 fun source hsource => ?_
  obtain ⟨hnone, hother⟩ := hnames source hsource
  rw [table?_runCommands hcs hother (sequences_ne_source hsource), hnone]

/-! ### After some of the statements of a plan -/

/-- **What is planned after the first statements of a plan**: the others.  It is planned unless the
first statement made the table, and introspection is hidden now. -/
theorem replan_of_prefix {mid : Database} {done rest : List Statement}
    (hfields : Declared .sqlite fields) (hplan : planOn db o t fields = .ok p)
    (hsplit : p.plan.statements = done ++ rest)
    (hrun : db.runCommands (commandsOf done) = (.ok (), mid)) (o' : Options) :
    ((∃ q, planOn mid o' t fields = .ok q) ↔
      done = [] ∨ db.hasTable t.table = true ∨
        ∀ source ∈ Builtin.columnSource ++ Builtin.indexSource,
          db.table? source = none ∧ sameName t.table source = false) ∧
    ∀ q, planOn mid o' t fields = .ok q → q.plan.statements = rest := by
  have hcommands : ∀ c ∈ commandsOf done, c.IsOf t.table := by
    intro c hc
    refine (isOf_of_planOn hplan c ?_).1
    rw [hsplit, commandsOf_append]
    exact List.mem_append_left _ hc
  have hafter : (db.runCommands (commandsOf done)).2 = mid := congrArg Prod.snd hrun
  cases hthere : db.hasTable t.table with
  | true =>
      have hwants : Wants mid t.table fields rest :=
        (hsplit ▸ wants_of_planOn hplan hthere).run hfields hrun
      refine ⟨⟨fun _ => .inr (.inl rfl), fun _ => ?_⟩, fun q hq => statements_of_wants hwants hq⟩
      -- introspection was not hidden, and the table is not one that hides it
      have hasked := (planOn_of_wants (wants_of_planOn hplan hthere) o).1 ⟨p, hplan⟩
      exact (planOn_of_wants hwants o').2
        (hafter ▸ hides_runCommands hcommands (names_of_hides hthere hasked))
  | false =>
      rw [planOn_of_absent hthere] at hplan
      obtain rfl := Except.ok.inj hplan
      cases done with
      | nil =>
          -- nothing was done, and the table is planned anew
          cases hrun
          refine ⟨⟨fun _ => .inl rfl, fun _ => ⟨_, planOn_of_absent hthere⟩⟩, fun q hq => ?_⟩
          rw [planOn_of_absent hthere] at hq
          obtain rfl := Except.ok.inj hq
          exact hsplit
      | cons st done =>
          rw [statements_planNewTable_sqlite] at hsplit
          obtain ⟨rfl, hindexes⟩ := List.cons.inj hsplit
          rw [commandsOf_cons rfl, runCommands_cons_eq_ok_iff] at hrun
          obtain ⟨made, hfirst, hrest⟩ := hrun
          have hwants : Wants mid t.table fields rest :=
            (hindexes ▸ wants_of_createTable hfields t.comment rfl hfirst).run hfields hrest
          refine ⟨?_, fun q hq => statements_of_wants hwants hq⟩
          rw [planOn_of_wants hwants o']
          constructor
          · intro hasked
            have hextends : Extends db mid := hafter ▸ extends_runCommands hcommands
            have hbefore := hides_eq_false_iff.1 (hextends.hides hasked)
            exact .inr (.inr fun source hsource => ⟨hbefore source hsource,
              (names_of_hides hwants.1 hasked source hsource).2⟩)
          · rintro (hnil | htrue | hnames)
            · cases hnil
            · cases htrue
            · exact hafter ▸ hides_runCommands hcommands hnames

/-! ### Runs that are cut short -/

/-- What is written for SQLite does not depend on the engine of MySQL. -/
theorem write_engine (e e' : Engine) (st : Statement) :
    st.write .sqlite e = st.write .sqlite e' := by
  cases st <;> rfl

/-- A sync that succeeds was planned, whether its statements were sent or shown. -/
theorem planned_of_syncOn {out : Outcome} (h : (syncOn db o t).1 = .ok out) :
    ∃ fields p, t.readFields .sqlite = .ok fields ∧ planOn db o t fields = .ok p ∧
      out.statements = p.plan.statements.map (·.write .sqlite o.engine) := by
  unfold syncOn at h
  cases hfields : t.readFields .sqlite with
  | error e =>
      rw [hfields] at h
      cases h
  | ok fields =>
      cases hplan : planOn db o t fields with
      | error e =>
          simp only [hfields, hplan] at h
          cases h
      | ok p =>
          refine ⟨fields, p, rfl, hplan, ?_⟩
          simp only [hfields, hplan] at h
          split at h
          · cases h
            rfl
          · split at h
            · cases h
              rfl
            · cases h

/-- **Texts are executed when their commands are run.** -/
theorem executeAll_eq_ok_iff (table : String) (e : Engine)
    (h : ∀ st ∈ sts, ∃ c, st.command? = some c) (j : Journal Database) {db' : Database} :
    (∃ log, (executeAll backend table (sts.map (·.write .sqlite e))).run j = (.ok (), ⟨db', log⟩)) ↔
      j.state.runCommands (commandsOf sts) = (.ok (), db') := by
  obtain ⟨log, hrun⟩ := run_executeAll table e h j
  rw [hrun]
  constructor
  · rintro ⟨log', hlog⟩
    cases hresult : j.state.runCommands (commandsOf sts) with
    | mk result db'' =>
        rw [hresult] at hlog
        cases result with
        | error x => cases hlog
        | ok u =>
            cases hlog
            rfl
  · intro hresult
    rw [hresult]
    exact ⟨log, rfl⟩

/-- **A run of texts that succeeds does so up to every one of them**, and the others can be executed
from there. -/
theorem executeAll_take (table : String) (e : Engine) (h : ∀ st ∈ sts, ∃ c, st.command? = some c)
    {j j' : Journal Database}
    (hall : (executeAll backend table (sts.map (·.write .sqlite e))).run j = (.ok (), j'))
    (k : Nat) :
    ∃ mid log, (executeAll backend table ((sts.map (·.write .sqlite e)).take k)).run j =
        (.ok (), ⟨mid, log⟩) ∧
      j.state.runCommands (commandsOf (sts.take k)) = (.ok (), mid) ∧
      mid.runCommands (commandsOf (sts.drop k)) = (.ok (), j'.state) := by
  have hrun := (executeAll_eq_ok_iff table e h j).1 ⟨_, hall⟩
  rw [← List.take_append_drop k sts, commandsOf_append, runCommands_append_eq_ok_iff] at hrun
  obtain ⟨mid, hdone, hrest⟩ := hrun
  obtain ⟨log, hcut⟩ := (executeAll_eq_ok_iff table e
    (fun st hst => h st (List.mem_of_mem_take hst)) j).2 hdone
  rw [List.map_take] at hcut
  exact ⟨mid, log, hcut, hdone, hrest⟩

/-- A sync succeeds where its function of the database does. -/
theorem run_succeeds_iff {j : Journal Database} :
    (∃ out j', (syncTable backend o t).run j = (.ok out, j')) ↔
      ∃ out db', syncOn j.state o t = (.ok out, db') := by
  constructor
  · rintro ⟨out, j', hrun⟩
    exact ⟨out, j'.state, syncOn_of_run hrun⟩
  · rintro ⟨out, db', hsync⟩
    obtain ⟨log, hrun⟩ := run_syncTable o t j
    exact ⟨out, _, hrun.trans (by rw [hsync])⟩

/-- A sync whose statements can be executed succeeds if it can be planned, and then it executes
these. -/
theorem syncOn_of_statements (hsent : o.planOnly = false)
    (hread : t.readFields .sqlite = .ok fields)
    (hstatements : ∀ q, planOn db o t fields = .ok q → q.plan.statements = sts)
    (hrun : db.runCommands (commandsOf sts) = (.ok (), db')) :
    ((∃ out db'', syncOn db o t = (.ok out, db'')) ↔ ∃ q, planOn db o t fields = .ok q) ∧
    ∀ out db'', syncOn db o t = (.ok out, db'') →
      out.statements = sts.map (·.write .sqlite o.engine) ∧ db'' = db' := by
  refine ⟨⟨?_, ?_⟩, ?_⟩
  · rintro ⟨out, db'', hsync⟩
    obtain ⟨fields', q, hread', hplan, -⟩ := (syncOn_eq_ok_iff hsent).1 hsync
    obtain rfl := Except.ok.inj (hread.symm.trans hread')
    exact ⟨q, hplan⟩
  · rintro ⟨q, hplan⟩
    refine ⟨_, db', (syncOn_eq_ok_iff hsent).2 ⟨fields, q, hread, hplan, ?_, rfl⟩⟩
    rw [hstatements q hplan, hrun]
  · intro out db'' hsync
    obtain ⟨fields', q, hread', hplan, hrun', rfl⟩ := (syncOn_eq_ok_iff hsent).1 hsync
    obtain rfl := Except.ok.inj (hread.symm.trans hread')
    rw [hstatements q hplan, hrun] at hrun'
    exact ⟨congrArg (List.map _) (hstatements q hplan), (congrArg Prod.snd hrun').symm⟩

/-- A sync plans a statement for a table that is not there. -/
theorem hasTable_of_statements_eq_nil (hplan : planOn db o t fields = .ok p)
    (hnone : p.plan.statements = []) : db.hasTable t.table = true := by
  rw [← Bool.not_eq_false]
  intro habsent
  rw [planOn_of_absent habsent] at hplan
  obtain rfl := Except.ok.inj hplan
  rw [statements_planNewTable_sqlite] at hnone
  cases hnone

/-- **When an interrupted run can be resumed, and where that ends.**  The statements that a sync
plans are executed, and all of them succeed.  If only the first `k` are executed, then a new sync
succeeds exactly when none was, or the table was there before, or neither the database nor the
definition has the name of a table that hides introspection.  Whenever it succeeds, it executes
exactly the other statements, and the database after it is the one after all of them. -/
theorem resumed_iff {j j₁ j' : Journal Database} {out : Outcome}
    (hplanned : (syncTable backend o t).run j = (.ok out, j₁))
    (hall : (executeAll backend t.table out.statements).run j = (.ok (), j')) (k : Nat)
    {o' : Options} (hsent : o'.planOnly = false) :
    ∃ jk, (executeAll backend t.table (out.statements.take k)).run j = (.ok (), jk) ∧
      ((∃ out' j'', (syncTable backend o' t).run jk = (.ok out', j'')) ↔
        k = 0 ∨ j.state.hasTable t.table = true ∨
          ∀ source ∈ Builtin.columnSource ++ Builtin.indexSource,
            j.state.table? source = none ∧ sameName t.table source = false) ∧
      ∀ out' j'', (syncTable backend o' t).run jk = (.ok out', j'') →
        out'.statements = out.statements.drop k ∧ j''.state = j'.state := by
  obtain ⟨fields, p, hread, hplan, hstatements⟩ :=
    planned_of_syncOn (congrArg Prod.fst (syncOn_of_run hplanned))
  have hcommands : ∀ st ∈ p.plan.statements, ∃ c, st.command? = some c :=
    fun st hst => (commands_of_planOn hplan st hst).imp fun _ hc => hc.1
  rw [hstatements] at hall
  obtain ⟨mid, log, hcut, hdone, hrest⟩ := executeAll_take t.table o.engine hcommands hall k
  rw [← hstatements] at hcut
  -- what is planned after the first `k` are the others, and they can be executed
  have hsplit : p.plan.statements = p.plan.statements.take k ++ p.plan.statements.drop k :=
    (List.take_append_drop k _).symm
  have hfields : Declared .sqlite fields := declared_of_readFields hread
  obtain ⟨hreplanned, hleft⟩ := replan_of_prefix hfields hplan hsplit hdone o'
  obtain ⟨hsucceeds, hsame⟩ := syncOn_of_statements hsent hread hleft hrest
  refine ⟨⟨mid, log⟩, hcut, ?_, fun out' j'' hagain => ?_⟩
  · have hthere := hasTable_of_statements_eq_nil hplan
    rw [run_succeeds_iff, hsucceeds, hreplanned, List.take_eq_nil_iff, or_assoc]
    refine or_congr_right ⟨?_, .inr⟩
    rintro (hnone | hresumes)
    · exact .inl (hthere hnone)
    · exact hresumes
  · obtain ⟨hsent', hstate⟩ := hsame _ _ (syncOn_of_run hagain)
    refine ⟨?_, hstate⟩
    rw [hsent', hstatements, List.map_drop]
    refine congrArg (List.drop k) (List.map_congr_left fun st _ => ?_)
    exact write_engine o'.engine o.engine st

/-- The statements of a sync that is carried out can be executed by themselves. -/
theorem executeAll_of_syncTable (hsent : o.planOnly = false) {j j' : Journal Database}
    {out : Outcome} (h : (syncTable backend o t).run j = (.ok out, j')) :
    ∃ log, (executeAll backend t.table out.statements).run j = (.ok (), ⟨j'.state, log⟩) := by
  obtain ⟨fields, p, -, hplan, hrun, rfl⟩ := (syncOn_eq_ok_iff hsent).1 (syncOn_of_run h)
  exact (executeAll_eq_ok_iff t.table o.engine
    (fun st hst => (commands_of_planOn hplan st hst).imp fun _ hc => hc.1) j).2 hrun

/-- The sync of users is resumed after its first statement, which made the table. -/
theorem users_resumed :
    ∃ (j' jk j'' : Journal Database) (out out' : Outcome),
      (executeAll backend "user" out.statements).run ⟨.empty, []⟩ = (.ok (), j') ∧
      (executeAll backend "user" (out.statements.take 1)).run ⟨.empty, []⟩ = (.ok (), jk) ∧
      (syncTable backend {} users).run jk = (.ok out', j'') ∧
      out'.statements = out.statements.drop 1 ∧ j''.state = j'.state := by
  have hnames : ∀ source ∈ Builtin.columnSource ++ Builtin.indexSource,
      sameName users.table source = false := by decide +kernel
  obtain ⟨out, j', hfirst⟩ := run_syncTable_empty (t := users) (by decide +kernel)
  obtain ⟨log, hall⟩ := executeAll_of_syncTable rfl hfirst
  have hsent : ({} : Options).planOnly = false := rfl
  obtain ⟨jk, hcut, hsucceeds, hsame⟩ := resumed_iff hfirst hall 1 hsent
  obtain ⟨out', j'', hagain⟩ :=
    hsucceeds.2 (.inr (.inr fun source hsource => ⟨rfl, hnames source hsource⟩))
  exact ⟨_, jk, j'', out, out', hall, hcut, hagain, hsame out' j'' hagain⟩

/-- **A run that is cut short cannot always be resumed**: the table that was made may be one that
hides introspection. -/
theorem hidingTable_unresumed :
    ¬ ∀ (o : Options) (t : Definition) (j j₁ j' : Journal Database) (out : Outcome),
        (syncTable backend o t).run j = (.ok out, j₁) →
          (executeAll backend t.table out.statements).run j = (.ok (), j') →
            ∀ (o' : Options) (k : Nat), o'.planOnly = false → k ≤ out.statements.length →
              ∃ (jk j'' : Journal Database) (out' : Outcome),
                (executeAll backend t.table (out.statements.take k)).run j = (.ok (), jk) ∧
                (syncTable backend o' t).run jk = (.ok out', j'') := by
  intro hclaim
  obtain ⟨out, j', hfirst⟩ := run_syncTable_empty (t := hidingTable) (by decide +kernel)
  obtain ⟨log, hall⟩ := executeAll_of_syncTable rfl hfirst
  obtain ⟨jk, j'', out', hcut, hagain⟩ :=
    hclaim {} hidingTable _ _ _ out hfirst hall {} out.statements.length rfl le_rfl
  -- all the statements are executed, so that the database is the one after the first sync
  rw [List.take_length, hall] at hcut
  obtain rfl := congrArg Prod.snd hcut
  have hafter : (syncOn .empty {} hidingTable).2 = j'.state :=
    congrArg Prod.snd (syncOn_of_run hfirst)
  have hfailed : (syncOn (syncOn .empty {} hidingTable).2 {} hidingTable).1.toOption = none := by
    decide +kernel
  rw [hafter, syncOn_of_run hagain] at hfailed
  cases hfailed

end Sqlite

end Conform

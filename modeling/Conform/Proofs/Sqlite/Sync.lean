/-
**The sync of a table on a SQLite database.**

A sync changes the database by the commands of its plan alone, one after the other up to the first
that fails, and its outcome depends on the database and not on the log.  So it is a function of the
database.

Main definitions:

* `Sqlite.planOn` — introspection and planning, as a function of the database;
* `Sqlite.commandsOf` — the commands of statements;
* `Sqlite.syncOn` — **the sync of a table, as a function of the database**.

Main results:

* `Sqlite.planOn_eq_ok_iff` — when planning succeeds, and with what plan;
* `Sqlite.commands_of_planOn` — every statement of a plan is a command on the table;
* `Sqlite.run_syncTable` — **a sync is that function**, whatever the log.
-/

import Conform.Proofs.Plan.Convergence
import Conform.Proofs.Sqlite.Introspection
import Conform.Sync.Table

set_option relaxedAutoImplicit false
set_option autoImplicit false

namespace Conform

namespace Sqlite

open Session

variable {db : Database} {o : Options} {t : Definition} {fields : List Field} {p : Planned}

/-! ### Planning -/

/-- **Introspection and planning, as a function of the database.** -/
def planOn (db : Database) (o : Options) (t : Definition) (fields : List Field) :
    Except SyncError Planned :=
  if db.hasTable t.table then
    match told (db.liveColumns? t.table), told (db.liveIndexes? t.table) with
    | .ok columns, .ok indexes =>
        (planLiveTable .sqlite o t.table fields ⟨columns, indexes⟩).mapError .typeChange
    | .error e, _ => .error (.backend e)
    | .ok _, .error e => .error (.backend e)
  else .ok (planNewTable .sqlite o t.table fields t.comment)

/-- Planning asks the database and changes nothing but the log. -/
theorem run_planTable (o : Options) (t : Definition) (fields : List Field) (j : Journal Database) :
    ∃ log, (planTable backend o t fields).run j = (planOn j.state o t fields, ⟨j.state, log⟩) := by
  unfold planTable planOn
  simp only [run_bind, run_ask, backend, Except.mapError]
  cases hthere : j.state.hasTable t.table with
  | false =>
      simp only [Bool.false_eq_true, if_false, run_bind, run_note, run_pure]
      exact ⟨_, rfl⟩
  | true =>
      simp only [if_true, run_bind, run_ask]
      cases told (j.state.liveColumns? t.table) with
      | error e => exact ⟨_, rfl⟩
      | ok columns =>
          simp only [Except.mapError]
          cases told (j.state.liveIndexes? t.table) with
          | error e => exact ⟨_, rfl⟩
          | ok indexes =>
              simp only [run_note, run_settle]
              exact ⟨_, rfl⟩

theorem planOn_of_absent (h : db.hasTable t.table = false) :
    planOn db o t fields = .ok (planNewTable .sqlite o t.table fields t.comment) := by
  rw [planOn, h]
  rfl

/-- **The plan for a table that is there is one for its report**, if introspection can be asked. -/
theorem planOn_of_present (h : db.hasTable t.table = true) :
    planOn db o t fields =
      if db.hides (Builtin.columnSource ++ Builtin.indexSource) then
        .error (.backend (.database "the answer cannot be read"))
      else match db.reported? t.table with
        | none => .error (.backend (.database "the answer cannot be read"))
        | some s => (planLiveTable .sqlite o t.table fields s).mapError .typeChange := by
  obtain ⟨u, hu, -⟩ := Database.hasTable_iff.1 h
  have hsources : db.hides (Builtin.columnSource ++ Builtin.indexSource) =
      (db.hides Builtin.columnSource || db.hides Builtin.indexSource) := List.any_append
  rw [planOn, h, if_pos rfl, Database.liveColumns?_of_hasTable h hu,
    Database.liveIndexes?_of_hasTable h, hsources, Database.reported?, hu]
  cases db.hides Builtin.columnSource with
  | true => rfl
  | false =>
      cases hcolumns : reportedColumns? u.columns with
      | none => cases db.hides Builtin.indexSource <;> simp [told, hcolumns]
      | some columns => cases db.hides Builtin.indexSource <;> simp [told, hcolumns]

/-- **When planning succeeds, and with what plan.** -/
theorem planOn_eq_ok_iff :
    planOn db o t fields = .ok p ↔
      (db.hasTable t.table = false ∧ p = planNewTable .sqlite o t.table fields t.comment) ∨
      (db.hasTable t.table = true ∧
        db.hides (Builtin.columnSource ++ Builtin.indexSource) = false ∧
        ∃ s, db.reported? t.table = some s ∧ planLiveTable .sqlite o t.table fields s = .ok p) := by
  cases hthere : db.hasTable t.table with
  | false =>
      rw [planOn_of_absent hthere]
      constructor
      · intro e
        exact .inl ⟨rfl, (Except.ok.inj e).symm⟩
      · rintro (⟨-, rfl⟩ | ⟨hfalse, -⟩)
        · rfl
        · cases hfalse
  | true =>
      rw [planOn_of_present hthere]
      cases db.hides (Builtin.columnSource ++ Builtin.indexSource) with
      | true => simp
      | false =>
          cases db.reported? t.table with
          | none => simp
          | some s => cases hplan : planLiveTable .sqlite o t.table fields s <;>
              simp [Except.mapError, hplan]

/-! ### The commands of a plan -/

/-- **The commands of statements.** -/
def commandsOf (sts : List Statement) : List Command := sts.filterMap Statement.command?

/-- The type and the length of a live column are left as they are. -/
theorem clauses_shapeStep_sqlite (allowShrink : Bool) (live : LiveColumn) (c : Conform.Column) :
    (shapeStep .sqlite allowShrink live c).clauses = [] := by
  refine ShapeStep.clauses_of_not_alters ?_
  cases hstep : shapeStep .sqlite allowShrink live c with
  | alter k => cases retype?_of_shapeStep hstep
  | keep => rfl
  | skipShrink _ _ => rfl
  | skipUnsupported => rfl

/-- The default of a live column is left as it is. -/
theorem clauses_defaultStep_sqlite (shape : ShapeStep) (live : LiveColumn) (c : Conform.Column) :
    (defaultStep .sqlite shape live c).clauses = [] := by
  refine DefaultStep.clauses_of_not_alters ?_
  cases hstep : defaultStep .sqlite shape live c with
  | alter k => cases redefault?_of_defaultStep hstep
  | keep => rfl
  | restated => rfl
  | unavailable => rfl
  | skipUnsupported => rfl

/-- A field contributes at most a new column. -/
theorem draftField_sqlite {table : String} {s : Snapshot} {f : Field} {a : Conform.Draft}
    (h : draftField .sqlite o table s f = .ok a) :
    a.modifies = [] ∧ a.defaults = [] ∧ a.comments = [] ∧
      a.adds = if (s.columns[f.key]?).isSome then [] else [.addColumn (f.column .sqlite)] := by
  have hstates : o.statesComments .sqlite = false := rfl
  cases hlive : s.columns[f.key]? with
  | none =>
      rw [draftField_of_none hlive] at h
      cases h
      simp [draftMissing, hstates]
  | some live =>
      rw [draftField_of_some hlive] at h
      split at h
      · cases h
      · cases h
        have hcomment :
            commentChange? (o.statesComments .sqlite) live (f.column .sqlite) = none := by
          rw [commentChange?, hstates]
          rfl
        refine ⟨?_, ?_, ?_, rfl⟩
        · rw [Review.draft, shape_review, clauses_shapeStep_sqlite]
        · rw [Review.draft, default_review, clauses_defaultStep_sqlite]
        · rw [Review.draft, comment_review, hcomment]
          rfl

/-- The fields whose columns are not reported. -/
def missing (s : Snapshot) (fields : List Field) : List Field :=
  fields.filter fun f => !(s.columns[f.key]?).isSome

/-- **Fields contribute the columns that are missing**, and nothing else. -/
theorem draftFields_sqlite {table : String} {s : Snapshot} {a : Conform.Draft}
    (h : draftFields .sqlite o table s fields = .ok a) :
    a.modifies = [] ∧ a.defaults = [] ∧ a.comments = [] ∧
      a.adds = (missing s fields).map fun f => .addColumn (f.column .sqlite) := by
  induction fields generalizing a with
  | nil => cases h; exact ⟨rfl, rfl, rfl, rfl⟩
  | cons f fs ih =>
      obtain ⟨b, c, hfirst, hrest, rfl⟩ := draftFields_cons_eq_ok.1 h
      obtain ⟨hmodifies, hdefaults, hcomments, hadds⟩ := draftField_sqlite hfirst
      obtain ⟨hmodifies', hdefaults', hcomments', hadds'⟩ := ih hrest
      refine ⟨?_, ?_, ?_, ?_⟩
      · exact List.append_eq_nil_iff.2 ⟨hmodifies, hmodifies'⟩
      · exact List.append_eq_nil_iff.2 ⟨hdefaults, hdefaults'⟩
      · exact List.append_eq_nil_iff.2 ⟨hcomments, hcomments'⟩
      · change b.adds ++ c.adds = _
        rw [hadds, hadds', missing, missing, List.filter_cons]
        cases (s.columns[f.key]?).isSome <;> rfl

/-- **The statements of a plan for a table that is there**: new columns, then index changes. -/
theorem statements_planLiveTable {table : String} {s : Snapshot}
    (h : planLiveTable .sqlite o table fields s = .ok p) :
    p.plan.statements =
      (missing s fields).map (fun f => .alterTable table (.addColumn (f.column .sqlite))) ++
        (indexChanges table s (fields.map (·.column .sqlite))).map (·.statement table) := by
  obtain ⟨a, hdraft, rfl⟩ := planLiveTable_eq_ok_iff.1 h
  obtain ⟨hmodifies, hdefaults, hcomments, hadds⟩ := draftFields_sqlite hdraft
  rw [statements_planned, hmodifies, hdefaults, hcomments, hadds]
  simp [Function.comp_def]

/-- **The statements of a plan for a new table**: the table, then its indexes. -/
theorem statements_planNewTable_sqlite (table : String) (comment : Option String) :
    (planNewTable .sqlite o table fields comment).plan.statements =
      .createTable table (fields.map (·.column .sqlite)) comment ::
        ((createIndexKeys (fields.map (·.column .sqlite))).map (createIndexOf table)).map
          (·.statement table) := by
  rw [planNewTable_eq]
  rfl

/-- An index change is a command on its table, which drops an index if the change does. -/
theorem command?_indexChange (table : String) (a : IndexChange) :
    ∃ c, (a.statement table).command? = some c ∧ c.IsOf table ∧
      ∀ n, c.dropped? = some n → a = ⟨.drop, n, a.key⟩ := by
  obtain ⟨verb, index, key⟩ := a
  cases verb with
  | create =>
      refine ⟨_, rfl, rfl, fun n hn => ?_⟩
      cases hn
  | drop =>
      refine ⟨_, rfl, trivial, fun n hn => ?_⟩
      cases hn
      rfl

/-- **Every statement of a plan is a command on the table**, and the indexes that are dropped are
those that the plan says. -/
theorem commands_of_planOn (h : planOn db o t fields = .ok p) :
    ∀ st ∈ p.plan.statements, ∃ c, st.command? = some c ∧ c.IsOf t.table ∧
      ∀ n, c.dropped? = some n → ∃ key, (⟨.drop, n, key⟩ : IndexChange) ∈ p.plan.indexes := by
  have hindex : ∀ a ∈ p.plan.indexes, ∃ c, (a.statement t.table).command? = some c ∧
      c.IsOf t.table ∧
        ∀ n, c.dropped? = some n → ∃ key, (⟨.drop, n, key⟩ : IndexChange) ∈ p.plan.indexes := by
    intro a ha
    obtain ⟨c, hc, hof, hdropped⟩ := command?_indexChange t.table a
    exact ⟨c, hc, hof, fun n hn => ⟨a.key, hdropped n hn ▸ ha⟩⟩
  intro st hst
  rcases planOn_eq_ok_iff.1 h with ⟨-, rfl⟩ | ⟨-, -, s, -, hplan⟩
  · rw [statements_planNewTable_sqlite] at hst
    rcases List.mem_cons.1 hst with rfl | hst
    · refine ⟨_, rfl, rfl, fun n hn => ?_⟩
      cases hn
    · obtain ⟨a, ha, rfl⟩ := List.mem_map.1 hst
      rw [← planNewTable_indexes .sqlite o t.table fields t.comment] at ha
      exact hindex a ha
  · rw [statements_planLiveTable hplan] at hst
    obtain ⟨b, -, rfl⟩ := planLiveTable_eq_ok_iff.1 hplan
    rcases List.mem_append.1 hst with hst | hst
    · obtain ⟨f, _, rfl⟩ := List.mem_map.1 hst
      refine ⟨_, rfl, rfl, fun n hn => ?_⟩
      cases hn
    · obtain ⟨a, ha, rfl⟩ := List.mem_map.1 hst
      exact hindex a ha

/-- A plan is about its table, and it is carried out when it has a statement. -/
theorem changed_of_planOn (h : planOn db o t fields = .ok p) :
    p.plan.table = t.table ∧ (p.plan.changed = true ↔ p.plan.statements ≠ []) := by
  rcases planOn_eq_ok_iff.1 h with ⟨-, rfl⟩ | ⟨-, -, s, -, hplan⟩
  · exact ⟨rfl, by rw [statements_planNewTable_sqlite]; simp [planNewTable, Plan.settle, Plan.acts]⟩
  · obtain ⟨a, -, rfl⟩ := planLiveTable_eq_ok_iff.1 hplan
    exact ⟨rfl, Plan.acts_iff _ _ _⟩

/-! ### Carrying out -/

/-- **Executing texts is running their commands**, up to the first that fails. -/
theorem run_executeAll (table : String) (e : Engine) {sts : List Statement}
    (h : ∀ st ∈ sts, ∃ c, st.command? = some c) (j : Journal Database) :
    ∃ log, (executeAll backend table (sts.map (·.write .sqlite e))).run j =
      ((j.state.runCommands (commandsOf sts)).1.mapError fun x => .backend (backendError x),
        ⟨(j.state.runCommands (commandsOf sts)).2, log⟩) := by
  -- the state and the log differ from one statement to the next
  induction sts generalizing j with
  | nil => exact ⟨j.log, rfl⟩
  | cons st sts ih =>
      obtain ⟨c, hc⟩ := h st (List.mem_cons_self ..)
      have hcommands : commandsOf (st :: sts) = c :: commandsOf sts := by
        rw [commandsOf, List.filterMap_cons, hc]
        rfl
      rw [List.map_cons, executeAll, hcommands]
      simp only [run_bind, run_note, run_ask, backend, execute_write j.state e hc]
      cases hrun : c.run j.state with
      | error x =>
          rw [Database.runCommands_cons_error hrun]
          exact ⟨_, rfl⟩
      | ok db' =>
          rw [Database.runCommands_cons_ok hrun]
          exact ih (fun s hs => h s (List.mem_cons_of_mem _ hs)) _

/-- **Carrying out a plan**: its statements are shown, or they are executed. -/
theorem run_carryOut (h : planOn db o t fields = .ok p) (j : Journal Database) :
    ∃ log, (carryOut backend o (p.plan.write .sqlite o.engine)).run j =
      if o.planOnly then (.ok (p.plan.statements.map (·.write .sqlite o.engine)), ⟨j.state, log⟩)
      else match j.state.runCommands (commandsOf p.plan.statements) with
        | (.ok _, db') => (.ok (p.plan.statements.map (·.write .sqlite o.engine)), ⟨db', log⟩)
        | (.error e, db') => (.error (.backend (backendError e)), ⟨db', log⟩) := by
  obtain ⟨-, hchanged⟩ := changed_of_planOn h
  have hsame : (p.plan.write .sqlite o.engine).changed = p.plan.changed := rfl
  have htexts := TypedPlan.statements_write .sqlite o.engine p.plan
  have hdialect : backend.dialect = .sqlite := rfl
  unfold carryOut
  rw [hsame, hdialect, htexts]
  cases hacts : p.plan.changed with
  | false =>
      have hnone : p.plan.statements = [] := by
        rw [← Bool.not_eq_true, hchanged] at hacts
        exact Classical.not_not.1 hacts
      rw [hnone]
      refine ⟨j.log, ?_⟩
      cases o.planOnly <;> rfl
  | true =>
      rw [if_pos rfl]
      cases o.planOnly with
      | true =>
          simp only [if_true, run_bind, run_note, run_pure]
          exact ⟨_, rfl⟩
      | false =>
          obtain ⟨log, hrun⟩ := run_executeAll (p.plan.write .sqlite o.engine).table o.engine
            (fun st hst => (commands_of_planOn h st hst).imp fun _ hc => hc.1) j
          refine ⟨log, ?_⟩
          simp only [Bool.false_eq_true, if_false, run_bind, hrun, run_pure]
          cases hresult : j.state.runCommands (commandsOf p.plan.statements) with
          | mk result db' => cases result <;> rfl

/-- **The sync of a table, as a function of the database.** -/
def syncOn (db : Database) (o : Options) (t : Definition) : Except SyncError Outcome × Database :=
  match t.readFields .sqlite with
  | .error e => (.error (.rule e), db)
  | .ok fields =>
      match planOn db o t fields with
      | .error e => (.error e, db)
      | .ok p =>
          let outcome : Outcome :=
            ⟨p.plan.write .sqlite o.engine, p.counters,
              p.plan.statements.map (·.write .sqlite o.engine)⟩
          if o.planOnly then (.ok outcome, db)
          else match db.runCommands (commandsOf p.plan.statements) with
            | (.ok _, db') => (.ok outcome, db')
            | (.error e, db') => (.error (.backend (backendError e)), db')

/-- **A sync is a function of the database**, whatever the log. -/
theorem run_syncTable (o : Options) (t : Definition) (j : Journal Database) :
    ∃ log, (syncTable backend o t).run j =
      ((syncOn j.state o t).1, ⟨(syncOn j.state o t).2, log⟩) := by
  have hdialect : backend.dialect = .sqlite := rfl
  unfold syncTable syncOn
  simp only [run_bind, run_settle, hdialect]
  cases hfields : t.readFields .sqlite with
  | error e => exact ⟨j.log, rfl⟩
  | ok fields =>
      obtain ⟨log, hplanned⟩ := run_planTable o t fields j
      simp only [Except.mapError, hplanned]
      cases hplan : planOn j.state o t fields with
      | error e => exact ⟨log, rfl⟩
      | ok p =>
          obtain ⟨log', hcarried⟩ := run_carryOut hplan ⟨j.state, log⟩
          refine ⟨log', ?_⟩
          simp only [hcarried]
          cases o.planOnly with
          | true => rfl
          | false =>
              simp only [Bool.false_eq_true, if_false]
              cases j.state.runCommands (commandsOf p.plan.statements) with
              | mk result db' => cases result <;> rfl

/-- The result of a sync and the database after it are those of the function. -/
theorem syncOn_of_run {j j' : Journal Database} {result : Except SyncError Outcome}
    (h : (syncTable backend o t).run j = (result, j')) :
    syncOn j.state o t = (result, j'.state) := by
  obtain ⟨log, hrun⟩ := run_syncTable o t j
  rw [hrun] at h
  cases h
  rfl

/-- A sync that succeeds as a function of the database succeeds. -/
theorem run_of_isSome {j : Journal Database}
    (h : (syncOn j.state o t).1.toOption.isSome = true) :
    ∃ out j', (syncTable backend o t).run j = (.ok out, j') ∧
      syncOn j.state o t = (.ok out, j'.state) := by
  obtain ⟨out, hout⟩ := Option.isSome_iff_exists.1 h
  obtain ⟨log, hrun⟩ := run_syncTable o t j
  rw [eq_ok_of_toOption hout] at hrun
  exact ⟨out, _, hrun, Prod.ext (eq_ok_of_toOption hout) rfl⟩

/-- **When a sync that is carried out succeeds.** -/
theorem syncOn_eq_ok_iff {out : Outcome} {db' : Database} (hplan : o.planOnly = false) :
    syncOn db o t = (.ok out, db') ↔
      ∃ fields p, t.readFields .sqlite = .ok fields ∧ planOn db o t fields = .ok p ∧
        db.runCommands (commandsOf p.plan.statements) = (.ok (), db') ∧
        out = ⟨p.plan.write .sqlite o.engine, p.counters,
          p.plan.statements.map (·.write .sqlite o.engine)⟩ := by
  unfold syncOn
  constructor
  · intro h
    cases hfields : t.readFields .sqlite with
    | error e =>
        rw [hfields] at h
        cases h
    | ok fields =>
        cases hplanned : planOn db o t fields with
        | error e =>
            simp only [hfields, hplanned] at h
            cases h
        | ok p =>
            refine ⟨fields, p, rfl, hplanned, ?_⟩
            simp only [hfields, hplanned, hplan, Bool.false_eq_true, if_false] at h
            cases hrun : db.runCommands (commandsOf p.plan.statements) with
            | mk result db'' =>
                rw [hrun] at h
                cases result with
                | error e => cases h
                | ok u =>
                    cases h
                    exact ⟨rfl, rfl⟩
  · rintro ⟨fields, p, hfields, hplanned, hrun, rfl⟩
    simp only [hfields, hplanned, hplan, Bool.false_eq_true, if_false, hrun]

/-- **A sync changes the database by commands on its table**, also when it fails. -/
theorem syncOn_snd (db : Database) (o : Options) (t : Definition) :
    (syncOn db o t).2 = db ∨ ∃ fields p, t.readFields .sqlite = .ok fields ∧
      planOn db o t fields = .ok p ∧
      (syncOn db o t).2 = (db.runCommands (commandsOf p.plan.statements)).2 := by
  unfold syncOn
  cases hfields : t.readFields .sqlite with
  | error e => exact .inl rfl
  | ok fields =>
      cases hplan : planOn db o t fields with
      | error e => exact .inl (by simp only [hplan])
      | ok p =>
          cases o.planOnly with
          | true => exact .inl (by simp only [hplan, if_true])
          | false =>
              refine .inr ⟨fields, p, rfl, hplan, ?_⟩
              simp only [hplan, Bool.false_eq_true, if_false]
              cases db.runCommands (commandsOf p.plan.statements) with
              | mk result db' => cases result <;> rfl

end Sqlite

end Conform

/-
**The course of a sync.**

A sync that cannot read its fields asks for nothing.  Otherwise it asks for the table, and for the
columns and the indexes of a table that is there; statements are executed after that, if all
questions were answered and a plan was made.  A call that fails is the last one, and its error is
returned.  So a plan that is refused leaves the table as it is.

The backend follows a script, which may let any call fail.

Main definitions:

* `Script.fault?` — the fault of a call that is made after a trace;
* `Script.Ends` — **how calls end with a result**: none of them fails, or the last one does;
* `StopsAtFault` — that a session makes no call after one that fails;
* `Script.questions`, `Script.Answers` — the questions about a table, and that all are answered;
* `Script.planFor` — the plan for a table as it is in the script;
* `Script.Course` — **the course of a sync**;
* `Script.Reaches` — how far a sync gets once its fields are read.

Main results:

* `StopsAtFault.bind` — what stops at faults is put together from parts that do;
* `Script.stopsAtFault_syncTable` — a sync stops at the first fault;
* `Script.run_planTable`, `Script.run_carryOut` — which calls planning makes, and which follow it;
* `Script.run_syncTable_read` — **a sync asks its questions, then gets as far as it can**;
* `Script.course_syncTable` — **the course of every sync**.
-/

import Conform.Proofs.Sync.Validation

set_option relaxedAutoImplicit false
set_option autoImplicit false

namespace Conform

open Session

/-! ### Calls that fail -/

namespace Script

variable {s : Script} {trace : List Call}

/-- **The fault of a call** that is made after a trace, if it fails. -/
def fault? (s : Script) (trace : List Call) : Call → Option String
  | .tableExists table => s.tableExistsFault table
  | .columns table => s.columnsFault table
  | .indexes table => s.indexesFault table
  | .execute _ => s.executeFault (executed trace + 1)

/-- That no call fails of those that are made after a trace. -/
def Passes (s : Script) : List Call → List Call → Prop
  | _, [] => True
  | trace, c :: calls => s.fault? trace c = none ∧ Passes s (trace ++ [c]) calls

theorem passes_append {first second : List Call} :
    s.Passes trace (first ++ second) ↔
      s.Passes trace first ∧ s.Passes (trace ++ first) second := by
  induction first generalizing trace with
  | nil => simp [Passes]
  | cons c first ih =>
      rw [List.cons_append, Passes, Passes, ih, and_assoc, List.append_assoc, List.singleton_append]

/-- **How calls end with a result**: none of them fails, and the result is no error of the backend;
or the last one fails, and the result is its error. -/
inductive Ends {α : Type} (s : Script) (trace : List Call) :
    List Call → Except SyncError α → Prop
  | passed {calls : List Call} {result : Except SyncError α} :
      s.Passes trace calls → (∀ e, result ≠ .error (.backend e)) → Ends s trace calls result
  | failed {calls : List Call} {c : Call} {text : String} :
      s.Passes trace calls → s.fault? (trace ++ calls) c = some text →
        Ends s trace (calls ++ [c]) (.error (.backend (.connection text)))

namespace Ends

variable {α : Type} {calls : List Call} {result : Except SyncError α}

/-- **A call that fails is the last one**, and its error is the result. -/
theorem of_fault (h : s.Ends trace calls result) {before after : List Call} {c : Call}
    {text : String} (hcalls : calls = before ++ c :: after)
    (hfault : s.fault? (trace ++ before) c = some text) :
    after = [] ∧ result = .error (.backend (.connection text)) := by
  have hfails : ∀ rest, ¬s.Passes trace (before ++ c :: rest) := by
    intro rest hpasses
    rw [(passes_append.1 hpasses).2.1] at hfault
    cases hfault
  cases h with
  | passed hpasses _ => exact absurd (hcalls ▸ hpasses) (hfails after)
  | @failed passed last text' hpasses hlast =>
      rcases List.eq_nil_or_concat after with rfl | ⟨rest, last', rfl⟩
      · obtain ⟨rfl, hsame⟩ := List.append_inj' hcalls rfl
        obtain rfl := List.singleton_inj.1 hsame
        rw [hlast] at hfault
        rw [Option.some.inj hfault]
        exact ⟨rfl, rfl⟩
      · rw [List.concat_eq_append, ← List.cons_append, ← List.append_assoc] at hcalls
        obtain ⟨rfl, -⟩ := List.append_inj' hcalls rfl
        exact absurd hpasses (hfails rest)

/-- **An error of the backend is that of the last call.** -/
theorem last_of_error {e : BackendError} (h : s.Ends trace calls result)
    (hresult : result = .error (.backend e)) :
    ∃ before c text, calls = before ++ [c] ∧ s.fault? (trace ++ before) c = some text ∧
      e = .connection text := by
  cases h with
  | passed _ hother => exact absurd hresult (hother e)
  | @failed before c text _ hfault =>
      cases hresult
      exact ⟨before, c, text, rfl, hfault, rfl⟩

end Ends

end Script

/-- **That a session makes no call after one that fails.** -/
def StopsAtFault {α : Type} (s : Script) (step : Session (List Call) α) : Prop :=
  ∀ j, ∃ calls, (step.run j).2.state = j.state ++ calls ∧ s.Ends j.state calls (step.run j).1

namespace StopsAtFault

variable {α β : Type} {s : Script}

theorem settle {r : Except SyncError α} (h : ∀ e, r ≠ .error (.backend e)) :
    StopsAtFault s (settle r) :=
  fun _ => ⟨[], (List.append_nil _).symm, .passed trivial h⟩

theorem note (entries : Log) : StopsAtFault s (note entries) :=
  fun _ => ⟨[], (List.append_nil _).symm, .passed trivial nofun⟩

theorem ask {call : List Call → Answer (List Call) α} (c : Call) (value : α)
    (h : ∀ trace, call trace = (Script.answer (s.fault? trace c) value, trace ++ [c])) :
    StopsAtFault s (ask call) := by
  intro j
  refine ⟨[c], by rw [run_ask, h], ?_⟩
  rw [run_ask, h]
  cases hfault : s.fault? j.state c with
  | none => exact .passed ⟨hfault, trivial⟩ nofun
  | some text =>
      have hnone : s.Passes j.state [] := trivial
      exact Script.Ends.failed hnone (by rwa [List.append_nil])

/-- **What stops at faults is put together from parts that do.** -/
theorem bind {step : Session (List Call) α} {next : α → Session (List Call) β}
    (hstep : StopsAtFault s step) (hnext : ∀ a, StopsAtFault s (next a)) :
    StopsAtFault s (step >>= next) := by
  intro j
  obtain ⟨calls, hcalls, hends⟩ := hstep j
  rw [run_bind]
  generalize step.run j = first at hcalls hends
  obtain ⟨result, state, log⟩ := first
  cases result with
  | error e =>
      refine ⟨calls, hcalls, ?_⟩
      cases hends with
      | passed hpasses hother =>
          exact .passed hpasses fun e' h => hother e' (congrArg Except.error (Except.error.inj h))
      | failed hpasses hfault => exact .failed hpasses hfault
  | ok a =>
      obtain rfl : state = j.state ++ calls := hcalls
      obtain ⟨more, hmore, hends'⟩ := hnext a ⟨j.state ++ calls, log⟩
      refine ⟨calls ++ more, by rw [hmore, List.append_assoc], ?_⟩
      cases hends with
      | passed hpasses _ =>
          generalize ((next a).run ⟨j.state ++ calls, log⟩).1 = result' at hends'
          cases hends' with
          | passed hlater hother => exact .passed (Script.passes_append.2 ⟨hpasses, hlater⟩) hother
          | failed hlater hfault =>
              rw [← List.append_assoc]
              refine .failed (Script.passes_append.2 ⟨hpasses, hlater⟩) ?_
              rwa [← List.append_assoc]

theorem composes : Composes (StopsAtFault s) := ⟨fun _ => .settle nofun, .bind⟩

end StopsAtFault

namespace Script

variable {d : Dialect} {s : Script} {o : Options} {t : Definition} {fields : List Field}
  {trace : List Call}

/-! ### Syncs stop at faults -/

/-- **A sync stops at the first fault.** -/
theorem stopsAtFault_syncTable (d : Dialect) (s : Script) (o : Options) (t : Definition) :
    StopsAtFault s (syncTable (s.backend d) o t) := by
  have hread : StopsAtFault s (settle ((t.readFields (s.backend d).dialect).mapError .rule)) := by
    refine .settle fun e => ?_
    cases t.readFields (s.backend d).dialect <;> nofun
  have hplan : ∀ fields, StopsAtFault s (planTable (s.backend d) o t fields) :=
    StopsAtFault.composes.planTable (.ask (.tableExists t.table) _ fun _ => rfl)
      (.ask (.columns t.table) _ fun _ => rfl) (.ask (.indexes t.table) _ fun _ => rfl)
      (fun _ _ => .note _) fun _ => .settle nofun
  have hcarry : ∀ p, StopsAtFault s (carryOut (s.backend d) o p) :=
    StopsAtFault.composes.carryOut (fun sql => .ask (.execute sql) () fun _ => rfl) .note
  exact StopsAtFault.composes.syncTable hread hplan hcarry

/-! ### Planning -/

/-- **The questions about a table**: whether it is there, and for its columns and its indexes if it
is, each of them unless the one before failed. -/
def questions (s : Script) (table : String) : List Call :=
  .tableExists table ::
    if s.tableExistsFault table = none ∧ (s.tables table).isSome then
      .columns table :: if s.columnsFault table = none then [.indexes table] else []
    else []

/-- **That all questions about a table are answered.** -/
structure Answers (s : Script) (table : String) : Prop where
  tableExists : s.tableExistsFault table = none
  columns : (s.tables table).isSome → s.columnsFault table = none
  indexes : (s.tables table).isSome → s.indexesFault table = none

/-- **The plan for a table as it is in the script**, or its refusal. -/
def planFor (d : Dialect) (s : Script) (o : Options) (t : Definition) (fields : List Field) :
    Except TypeRefusal Planned :=
  match s.tables t.table with
  | none => .ok (planNewTable d o t.table fields t.comment)
  | some snapshot => planLiveTable d o t.table fields snapshot

/-- A session that begins with a call ends with its fault, or goes on with the answer. -/
theorem run_ask_bind {α β : Type} {call : List Call → Answer (List Call) α} {c : Call} {value : α}
    (h : ∀ trace, call trace = (answer (s.fault? trace c) value, trace ++ [c]))
    (next : α → Session (List Call) β) (j : Journal (List Call)) :
    (ask call >>= next).run j =
      match s.fault? j.state c with
      | some text => (.error (.backend (.connection text)), ⟨j.state ++ [c], j.log⟩)
      | none => (next value).run ⟨j.state ++ [c], j.log⟩ := by
  have hcall := h j.state
  cases hfault : s.fault? j.state c with
  | some text =>
      rw [hfault] at hcall
      exact run_bind_error (run_ask_error hcall)
  | none =>
      rw [hfault] at hcall
      exact run_bind_ok (run_ask_ok hcall)

/-- **Planning asks the questions about its table**, and ends with the error of the last of them or,
if all are answered, with the plan. -/
theorem run_planTable (d : Dialect) (s : Script) (o : Options) (t : Definition)
    (fields : List Field) (j : Journal (List Call)) :
    ∃ result log, (planTable (s.backend d) o t fields).run j =
        (result, ⟨j.state ++ s.questions t.table, log⟩) ∧
      ((¬s.Answers t.table ∧ ∃ text, result = .error (.backend (.connection text))) ∨
        s.Answers t.table ∧ result = (planFor d s o t fields).mapError .typeChange) := by
  have hexists : ∀ trace, (s.backend d).tableExists t.table trace =
      (answer (s.fault? trace (.tableExists t.table)) (s.tables t.table).isSome,
        trace ++ [.tableExists t.table]) := fun _ => rfl
  unfold planTable questions planFor
  rw [run_ask_bind hexists, fault?]
  cases htables : s.tableExistsFault t.table with
  | some text =>
      have hnot : ¬s.Answers t.table := fun h =>
        Option.some_ne_none text (htables.symm.trans h.tableExists)
      exact ⟨_, _, rfl, .inl ⟨hnot, text, rfl⟩⟩
  | none =>
      cases htable : s.tables t.table with
      | none => exact ⟨_, _, rfl, .inr ⟨⟨htables, by simp [htable], by simp [htable]⟩, rfl⟩⟩
      | some snapshot =>
          have hcolumns : ∀ trace, (s.backend d).columns t.table trace =
              (answer (s.fault? trace (.columns t.table)) snapshot.columns,
                trace ++ [.columns t.table]) := by simp [backend, fault?, htable]
          have hindexes : ∀ trace, (s.backend d).indexes t.table trace =
              (answer (s.fault? trace (.indexes t.table)) snapshot.indexes,
                trace ++ [.indexes t.table]) := by simp [backend, fault?, htable]
          simp only [Option.isSome_some, and_self, if_true]
          rw [run_ask_bind hcolumns, fault?]
          cases hcol : s.columnsFault t.table with
          | some text =>
              have hnot : ¬s.Answers t.table := fun h =>
                Option.some_ne_none text (hcol.symm.trans (h.columns (by rw [htable]; rfl)))
              dsimp only
              rw [if_neg (Option.some_ne_none text), List.append_assoc]
              exact ⟨_, _, rfl, .inl ⟨hnot, text, rfl⟩⟩
          | none =>
              dsimp only
              rw [if_pos rfl, run_ask_bind hindexes, fault?, List.append_assoc, List.append_assoc]
              cases hind : s.indexesFault t.table with
              | some text =>
                  have hnot : ¬s.Answers t.table := fun h =>
                    Option.some_ne_none text (hind.symm.trans (h.indexes (by rw [htable]; rfl)))
                  exact ⟨_, _, rfl, .inl ⟨hnot, text, rfl⟩⟩
              | none => exact ⟨_, _, rfl, .inr ⟨⟨htables, fun _ => hcol, fun _ => hind⟩, rfl⟩⟩

/-! ### Syncs -/

/-- **What is carried out are the first statements of a plan**, and none in a dry run. -/
theorem run_carryOut (d : Dialect) (s : Script) (o : Options) (p : WrittenPlan)
    (j : Journal (List Call)) :
    ∃ sqls result log, (carryOut (s.backend d) o p).run j =
        (result, ⟨j.state ++ sqls.map .execute, log⟩) ∧
      sqls <+: p.statements d o.engine ∧ (sqls ≠ [] → o.planOnly = false) ∧
      ∀ e, result = .error e → ∃ text, e = .backend (.connection text) := by
  have hnone : ∀ (shown : List String) (log : Log),
      (pure shown : Session (List Call) (List String)).run ⟨j.state, log⟩ =
        (.ok shown, ⟨j.state ++ ([] : List String).map .execute, log⟩) := by
    intro shown log
    rw [List.map_nil, List.append_nil]
    rfl
  unfold carryOut
  split
  · cases hmode : o.planOnly with
    | true =>
        exact ⟨[], _, _, (run_bind_ok (run_note _ j)).trans (hnone _ _), List.nil_prefix,
          fun h => absurd rfl h, nofun⟩
    | false =>
        rcases run_executeAll d s p.table (p.statements d o.engine) j with
          ⟨log, -, hrun⟩ | ⟨k, text, log, -, -, -, hrun⟩
        · exact ⟨_, _, _, run_bind_ok hrun, List.prefix_refl _, fun _ => rfl, nofun⟩
        · exact ⟨_, _, _, run_bind_error hrun, List.take_prefix .., fun _ => rfl,
            fun e he => ⟨text, (Except.error.inj he).symm⟩⟩
  · exact ⟨[], _, _, hnone [] j.log, List.nil_prefix, fun h => absurd rfl h, nofun⟩

/-- **The course of a sync** that makes these calls after a trace and ends with this result. -/
structure Course (s : Script) (d : Dialect) (o : Options) (t : Definition) (trace calls : List Call)
    (result : Except SyncError Outcome) : Prop where
  /-- Where the fields cannot be read, nothing is asked for. -/
  unread : ∀ e, t.readFields d = .error e → calls = [] ∧ result = .error (.rule e)
  /-- Otherwise the questions come first.  Statements come after them, and only where all were
  answered and a plan was made. -/
  read : ∀ fields, t.readFields d = .ok fields →
    ∃ sqls : List String, calls = s.questions t.table ++ sqls.map .execute ∧
      (sqls ≠ [] → o.planOnly = false ∧ s.Answers t.table ∧ ∃ p, planFor d s o t fields = .ok p ∧
        sqls <+: (p.plan.write d o.engine).statements d o.engine)
  /-- Where the plan is refused, nothing is executed. -/
  refused : ∀ fields r, t.readFields d = .ok fields → s.Answers t.table →
    planFor d s o t fields = .error r →
      calls = s.questions t.table ∧ result = .error (.typeChange r)
  /-- All questions are about the table. -/
  names : ∀ c ∈ calls, c.isExecute = false →
    c ∈ [.tableExists t.table, .columns t.table, .indexes t.table]
  /-- A call that fails is the last one, and its error is returned. -/
  stops : ∀ before c after text, calls = before ++ c :: after →
    s.fault? (trace ++ before) c = some text →
      after = [] ∧ result = .error (.backend (.connection text))
  /-- An error is that of the fields, that of the last call or the refusal of the plan. -/
  errors : ∀ e, result = .error e →
    (∃ e', t.readFields d = .error e' ∧ e = .rule e') ∨
    (∃ before c text, calls = before ++ [c] ∧ s.fault? (trace ++ before) c = some text ∧
      e = .backend (.connection text)) ∨
    ∃ fields r, t.readFields d = .ok fields ∧ s.Answers t.table ∧
      planFor d s o t fields = .error r ∧ e = .typeChange r

/-- No question is asked but these. -/
theorem questions_among (s : Script) (table : String) :
    s.questions table <+: [.tableExists table, .columns table, .indexes table] := by
  unfold questions
  split
  · split
    · exact List.prefix_refl _
    · exact List.prefix_append [Call.tableExists table, Call.columns table] _
  · exact List.prefix_append [Call.tableExists table] _

/-- **How far a sync gets** once its fields are read, with the statements that it executes: a
question is not answered, or the plan is refused, or the first statements of the plan are
executed. -/
inductive Reaches (d : Dialect) (s : Script) (o : Options) (t : Definition) (fields : List Field) :
    List String → Except SyncError Outcome → Prop
  | asking {text : String} : ¬s.Answers t.table →
      Reaches d s o t fields [] (.error (.backend (.connection text)))
  | planning {r : TypeRefusal} : s.Answers t.table → planFor d s o t fields = .error r →
      Reaches d s o t fields [] (.error (.typeChange r))
  | executing {sqls : List String} {result : Except SyncError Outcome} {p : Planned} :
      s.Answers t.table → planFor d s o t fields = .ok p →
      sqls <+: (p.plan.write d o.engine).statements d o.engine →
      (sqls ≠ [] → o.planOnly = false) →
      (∀ e, result = .error e → ∃ text, e = .backend (.connection text)) →
      Reaches d s o t fields sqls result

/-- **A sync asks its questions, then gets as far as it can.** -/
theorem run_syncTable_read (s : Script) (o : Options) (hread : t.readFields d = .ok fields)
    (j : Journal (List Call)) :
    ∃ sqls result log, (syncTable (s.backend d) o t).run j =
        (result, ⟨j.state ++ (s.questions t.table ++ sqls.map .execute), log⟩) ∧
      Reaches d s o t fields sqls result := by
  obtain ⟨result, log, hplan, hresult⟩ := run_planTable d s o t fields j
  have hasked : ∀ result : Except SyncError Outcome,
      (result, (⟨j.state ++ s.questions t.table, log⟩ : Journal (List Call))) =
        (result, ⟨j.state ++ (s.questions t.table ++ ([] : List String).map .execute), log⟩) := by
    simp
  have hread : t.readFields (s.backend d).dialect = .ok fields := hread
  rw [syncTable, run_bind_ok (run_read hread j)]
  rcases hresult with ⟨hnot, text, rfl⟩ | ⟨hanswers, rfl⟩
  · exact ⟨[], _, _, (run_bind_error hplan).trans (hasked _), .asking hnot⟩
  · cases hfor : planFor d s o t fields with
    | error r =>
        rw [hfor] at hplan
        exact ⟨[], _, _, (run_bind_error hplan).trans (hasked _), .planning hanswers hfor⟩
    | ok p =>
        rw [hfor] at hplan
        obtain ⟨sqls, sent, log', hsent, hprefix, hmode, herrors⟩ :=
          run_carryOut d s o (p.plan.write d o.engine) ⟨j.state ++ s.questions t.table, log⟩
        rw [List.append_assoc] at hsent
        cases sent with
        | error e =>
            exact ⟨sqls, _, _, (run_bind_ok hplan).trans (run_bind_error hsent),
              .executing hanswers hfor hprefix hmode
                fun e' he => herrors e' (congrArg Except.error (Except.error.inj he))⟩
        | ok statements =>
            exact ⟨sqls, _, _, (run_bind_ok hplan).trans (run_bind_ok hsent),
              .executing hanswers hfor hprefix hmode fun e he => by cases he⟩

theorem course_of_unread {e : RuleError} (hread : t.readFields d = .error e) :
    s.Course d o t trace [] (.error (.rule e)) where
  unread e' h := by
    rw [hread] at h
    rw [Except.error.inj h]
    exact ⟨rfl, rfl⟩
  read fields h := absurd (hread.symm.trans h) nofun
  refused fields _ h := absurd (hread.symm.trans h) nofun
  names _ h := nomatch h
  stops before c after _ h := absurd h.symm (List.append_ne_nil_of_right_ne_nil _ nofun)
  errors e' h := .inl ⟨e, hread, (Except.error.inj h).symm⟩

/-- **What a sync reaches fixes its course**, if its calls end with the result. -/
theorem course_of_reaches (hread : t.readFields d = .ok fields) {sqls : List String}
    {result : Except SyncError Outcome} (hreaches : Reaches d s o t fields sqls result)
    (hends : s.Ends trace (s.questions t.table ++ sqls.map .execute) result) :
    s.Course d o t trace (s.questions t.table ++ sqls.map .execute) result := by
  -- an error of the backend is known by the way in which the calls end
  have hlast : ∀ e, (∃ text, e = SyncError.backend (.connection text)) → result = .error e →
      ∃ before c text, s.questions t.table ++ sqls.map .execute = before ++ [c] ∧
        s.fault? (trace ++ before) c = some text ∧ e = .backend (.connection text) := by
    rintro _ ⟨text, rfl⟩ hresult
    obtain ⟨before, c, text', hcalls, hfault, he⟩ := hends.last_of_error hresult
    exact ⟨before, c, text', hcalls, hfault, congrArg SyncError.backend he⟩
  refine {
    unread := fun e h => absurd (hread.symm.trans h) nofun
    read := fun fields' h => ⟨sqls, rfl, fun hsome => ?read⟩
    refused := fun fields' r h hanswers hrefused => ?refused
    names := fun c hc hasks => ?names
    stops := fun _ _ _ _ hcalls hfault => hends.of_fault hcalls hfault
    errors := fun e hresult => ?errors }
  case read =>
    obtain rfl : fields = fields' := Except.ok.inj (hread.symm.trans h)
    cases hreaches with
    | asking => exact absurd rfl hsome
    | planning => exact absurd rfl hsome
    | executing hanswers hplan hprefix hmode => exact ⟨hmode hsome, hanswers, _, hplan, hprefix⟩
  case refused =>
    obtain rfl : fields = fields' := Except.ok.inj (hread.symm.trans h)
    cases hreaches with
    | asking hnot => exact absurd hanswers hnot
    | planning _ hrefused' =>
        rw [hrefused] at hrefused'
        rw [Except.error.inj hrefused']
        exact ⟨List.append_nil _, rfl⟩
    | executing _ hplan => exact absurd (hplan.symm.trans hrefused) nofun
  case names =>
    rcases List.mem_append.1 hc with hc | hc
    · exact (questions_among s t.table).subset hc
    · obtain ⟨sql, -, rfl⟩ := List.mem_map.1 hc
      exact absurd hasks (by simp [Call.isExecute])
  case errors =>
    cases hreaches with
    | asking => exact .inr (.inl (hlast e ⟨_, (Except.error.inj hresult).symm⟩ hresult))
    | planning hanswers hrefused =>
        exact .inr (.inr ⟨fields, _, hread, hanswers, hrefused, (Except.error.inj hresult).symm⟩)
    | executing _ _ _ _ herrors => exact .inr (.inl (hlast e (herrors e hresult) hresult))

/-- **Nothing is executed unless planning finished.**  Every sync has this course, whatever the
tables and the faults are. -/
theorem course_syncTable (d : Dialect) (s : Script) (o : Options) (t : Definition)
    (j : Journal (List Call)) :
    ∃ calls, ((syncTable (s.backend d) o t).run j).2.state = j.state ++ calls ∧
      s.Course d o t j.state calls ((syncTable (s.backend d) o t).run j).1 := by
  cases hread : t.readFields d with
  | error e =>
      have hrun : (syncTable (s.backend d) o t).run j = (.error (.rule e), j) :=
        run_bind_error (run_read_error hread j)
      rw [hrun]
      exact ⟨[], (List.append_nil _).symm, course_of_unread hread⟩
  | ok fields =>
      obtain ⟨sqls, result, log, hrun, hreaches⟩ := run_syncTable_read s o hread j
      obtain ⟨calls, hcalls, hends⟩ := stopsAtFault_syncTable d s o t j
      rw [hrun] at hcalls hends ⊢
      obtain rfl : calls = s.questions t.table ++ sqls.map .execute :=
        (List.append_cancel_left hcalls).symm
      exact ⟨_, rfl, course_of_reaches hread hreaches hends⟩

/-- A script in which every table is there, and its columns cannot be listed. -/
def unlisted : Script :=
  { tables := fun _ => some ⟨∅, ∅⟩, columnsFault := fun _ => some "connection lost" }

/-- The indexes are not asked for. -/
example : ((syncTable (unlisted.backend .mysql) {} ⟨"user", none, []⟩).run ⟨[], []⟩).2.state =
    [.tableExists "user", .columns "user"] := by decide +kernel

end Script

end Conform

/-
**A dry run shows what would be sent.**

A sync that only shows its statements asks the backend the same questions as the sync that sends
them, in the same order, and both plan the same.  So the statements that are shown are the ones
that are sent: all of them if none fails, and otherwise those up to the first that does.

The backend follows a script, which may let any call fail.

Main definitions:

* `Script.faultAfter` — the fault of a statement, counted from a given trace on;
* `AsksOnly` — that a session asks and plans, and executes nothing;
* `Script.Rehearses` — **what a dry run has in common with the run that it stands for**.

Main results:

* `planTable_congr` — planning does not look at whether statements are sent or shown;
* `Script.run_executeAll` — statements are executed up to the first that fails;
* `Script.asksOnly_planTable` — planning executes nothing;
* `Script.Rehearses.of_carryOut` — a plan that is shown rehearses the same plan that is sent;
* `Script.rehearses_syncTable` — **every dry run rehearses the sync that it stands for**.
-/

import Conform.Backend.Scripted
import Conform.Proofs.Definition.Fields
import Conform.Proofs.Plan.Switches
import Conform.Proofs.Sync.Sessions

set_option relaxedAutoImplicit false
set_option autoImplicit false

namespace Conform

open Session

variable {d : Dialect} {o o' : Options}

/-! ### Planning -/

/-- **Planning does not look at whether statements are sent or shown.** -/
theorem planTable_congr {σ : Type} {b : Backend σ} (h : o.PlansLike b.dialect o') (t : Definition)
    (fields : List Field) : planTable b o t fields = planTable b o' t fields := by
  simp only [planTable, liveTableLog_congr h, planLiveTable_congr h, planNewTable_congr h]

/-! ### Sessions that execute nothing -/

/-- **That a session only asks**: it executes nothing, and what it logs is about the planning. -/
def AsksOnly {α : Type} (step : Session (List Call) α) : Prop :=
  ∀ j, ∃ result asked planned, (∀ c ∈ asked, c.isExecute = false) ∧
    (∀ e ∈ planned, e.origin = .planning) ∧
    step.run j = (result, ⟨j.state ++ asked, j.log ++ planned⟩)

namespace AsksOnly

variable {α β : Type}

theorem settle (r : Except SyncError α) : AsksOnly (settle r) := by
  refine fun j => ⟨r, [], [], by simp, by simp, ?_⟩
  rw [run_settle, List.append_nil, List.append_nil]

theorem note {entries : Log} (h : ∀ e ∈ entries, e.origin = .planning) :
    AsksOnly (note entries) := by
  refine fun j => ⟨.ok (), [], entries, by simp, h, ?_⟩
  rw [run_note, List.append_nil]

theorem ask {call : List Call → Answer (List Call) α} (c : Call) (hc : c.isExecute = false)
    (h : ∀ trace, (call trace).2 = trace ++ [c]) : AsksOnly (ask call) := by
  refine fun j => ⟨(call j.state).1.mapError .backend, [c], [], List.forall_mem_singleton.2 hc,
    by simp, ?_⟩
  rw [run_ask, h, List.append_nil]

theorem bind {step : Session (List Call) α} {next : α → Session (List Call) β}
    (hstep : AsksOnly step) (hnext : ∀ a, AsksOnly (next a)) : AsksOnly (step >>= next) := by
  intro j
  obtain ⟨result, asked, planned, hasks, hplans, hrun⟩ := hstep j
  cases result with
  | error e => exact ⟨.error e, asked, planned, hasks, hplans, run_bind_error hrun⟩
  | ok a =>
      obtain ⟨result, asked', planned', hasks', hplans', hrun'⟩ :=
        hnext a ⟨j.state ++ asked, j.log ++ planned⟩
      refine ⟨result, asked ++ asked', planned ++ planned',
        List.forall_mem_append.2 ⟨hasks, hasks'⟩, List.forall_mem_append.2 ⟨hplans, hplans'⟩, ?_⟩
      rw [run_bind_ok hrun, hrun', List.append_assoc, List.append_assoc]

theorem composes : Composes AsksOnly := ⟨fun _ => .settle (.ok _), .bind⟩

end AsksOnly

namespace Script

variable {s : Script} {t : Definition} {j : Journal (List Call)}

/-! ### Executing -/

/-- **The fault of a statement**: the one that is executed when `k` others were executed after a
trace. -/
def faultAfter (s : Script) (trace : List Call) (k : Nat) : Option String :=
  s.executeFault (executed trace + k + 1)

/-- Questions are not counted. -/
theorem faultAfter_append {trace asked : List Call} (h : ∀ c ∈ asked, c.isExecute = false)
    (k : Nat) : s.faultAfter (trace ++ asked) k = s.faultAfter trace k := by
  have hnone : asked.countP Call.isExecute = 0 := by
    rw [List.countP_eq_zero]
    intro c hc
    rw [h c hc]
    exact Bool.false_ne_true
  rw [faultAfter, executed, List.countP_append, hnone]
  rfl

/-- A statement that was executed is counted. -/
theorem faultAfter_execute (trace : List Call) (sql : String) (k : Nat) :
    s.faultAfter (trace ++ [.execute sql]) k = s.faultAfter trace (k + 1) := by
  have hcount : executed (trace ++ [.execute sql]) = executed trace + 1 := by
    rw [executed, List.countP_append]
    rfl
  rw [faultAfter, faultAfter, hcount, Nat.add_right_comm (executed trace) 1 k, Nat.add_assoc _ k 1]

/-- Only one statement is the first that fails. -/
theorem faultAfter_first {trace : List Call} {k k' : Nat} {text text' : String}
    (hnone : ∀ i < k, s.faultAfter trace i = none) (hsome : s.faultAfter trace k = some text)
    (hnone' : ∀ i < k', s.faultAfter trace i = none) (hsome' : s.faultAfter trace k' = some text') :
    k' = k ∧ text' = text := by
  rcases Nat.lt_trichotomy k' k with hlt | rfl | hlt
  · rw [hnone k' hlt] at hsome'
    cases hsome'
  · exact ⟨rfl, Option.some.inj (hsome'.symm.trans hsome)⟩
  · rw [hnone' k hlt] at hsome
    cases hsome

/-- **Statements are executed up to the first that fails.** -/
theorem run_executeAll (d : Dialect) (s : Script) (table : String) (sqls : List String)
    (j : Journal (List Call)) :
    (∃ log, (∀ k < sqls.length, s.faultAfter j.state k = none) ∧
      (executeAll (s.backend d) table sqls).run j =
        (.ok (), ⟨j.state ++ sqls.map .execute, log⟩)) ∨
    ∃ k text log, k < sqls.length ∧ (∀ i < k, s.faultAfter j.state i = none) ∧
      s.faultAfter j.state k = some text ∧
      (executeAll (s.backend d) table sqls).run j =
        (.error (.backend (.connection text)),
          ⟨j.state ++ (sqls.take (k + 1)).map .execute, log⟩) := by
  induction sqls generalizing j with
  | nil =>
      refine .inl ⟨j.log, fun k hk => absurd hk (Nat.not_lt_zero k), ?_⟩
      rw [List.map_nil, List.append_nil]
      rfl
  | cons sql rest ih =>
      let noted : Journal (List Call) :=
        ⟨j.state, j.log ++ [⟨.debug, .execution, s!"{table}: {Text.collapse sql}"⟩]⟩
      have hnote : (executeAll (s.backend d) table (sql :: rest)).run j =
          (ask ((s.backend d).execute sql) >>= fun _ =>
            executeAll (s.backend d) table rest).run noted := run_bind_ok (run_note _ j)
      have hanswer : (s.backend d).execute sql noted.state =
          (answer (s.faultAfter j.state 0) (), j.state ++ [.execute sql]) := rfl
      cases hfault : s.faultAfter j.state 0 with
      | some text =>
          rw [hfault] at hanswer
          refine .inr ⟨0, text, noted.log, Nat.succ_pos _,
            fun i hi => absurd hi (Nat.not_lt_zero i), hfault, ?_⟩
          exact hnote.trans (run_bind_error (run_ask_error hanswer))
      | none =>
          rw [hfault] at hanswer
          have hstep := hnote.trans (run_bind_ok (run_ask_ok hanswer))
          -- the others are counted from the trace that ends with the first
          have hshift : ∀ n, (∀ k < n, s.faultAfter (j.state ++ [.execute sql]) k = none) →
              ∀ k < n + 1, s.faultAfter j.state k = none := by
            intro n hnone k hk
            cases k with
            | zero => exact hfault
            | succ k =>
                rw [← faultAfter_execute]
                exact hnone k (Nat.lt_of_succ_lt_succ hk)
          rcases ih ⟨j.state ++ [.execute sql], _⟩ with
            ⟨log, hnone, hrun⟩ | ⟨k, text, log, hk, hnone, hsome, hrun⟩
          · refine .inl ⟨log, hshift _ hnone, ?_⟩
            rw [hstep, hrun, List.map_cons, List.append_assoc]
            rfl
          · refine .inr ⟨k + 1, text, log, Nat.succ_lt_succ hk, hshift k hnone, ?_, ?_⟩
            · rw [← faultAfter_execute]
              exact hsome
            · rw [hstep, hrun, List.take_succ_cons, List.map_cons, List.append_assoc]
              rfl

/-- **Planning executes nothing.** -/
theorem asksOnly_planTable (d : Dialect) (s : Script) (o : Options) (t : Definition)
    (fields : List Field) : AsksOnly (planTable (s.backend d) o t fields) :=
  AsksOnly.composes.planTable (.ask (.tableExists t.table) rfl fun _ => rfl)
    (.ask (.columns t.table) rfl fun _ => rfl) (.ask (.indexes t.table) rfl fun _ => rfl)
    (fun _ => .note) (fun _ => .settle _) fields

/-! ### Dry runs -/

/-- **What a dry run has in common with the run that it stands for**, where both start from the same
journal.  Both ask the same questions in the same order; then the one shows its statements and the
other executes them. -/
structure Rehearses (d : Dialect) (o : Options) (s : Script) (j : Journal (List Call))
    (shown sent : Except SyncError Outcome × Journal (List Call)) (asked : List Call)
    (planned : Log) (executed : List String) : Prop where
  asks : ∀ c ∈ asked, c.isExecute = false
  plans : ∀ e ∈ planned, e.origin = .planning
  /-- The dry run executes nothing. -/
  shown_calls : shown.2.state = j.state ++ asked
  sent_calls : sent.2.state = j.state ++ asked ++ executed.map .execute
  /-- The dry run fails exactly when the other fails before anything is executed. -/
  fails : ∀ e, shown.1 = .error e ↔ sent.1 = .error e ∧ executed = []
  /-- There are no statements for a plan that changes nothing. -/
  statements : ∀ out, shown.1 = .ok out →
    out.statements = if out.plan.changed then out.plan.statements d o.engine else []
  shows : ∀ out, shown.1 = .ok out → shown.2.log = j.log ++ planned ++
    out.statements.map fun sql => ⟨.info, .execution, s!"[plan] {Text.collapse sql}"⟩
  /-- If no statement fails, what was shown is executed. -/
  sends : ∀ out, shown.1 = .ok out →
    (∀ k < out.statements.length, s.faultAfter j.state k = none) →
      executed = out.statements ∧ sent.1 = .ok out
  /-- Otherwise it is executed up to the first statement that fails. -/
  stops : ∀ out, shown.1 = .ok out → ∀ k < out.statements.length, ∀ text,
    (∀ i < k, s.faultAfter j.state i = none) → s.faultAfter j.state k = some text →
      executed = out.statements.take (k + 1) ∧
        sent.1 = .error (.backend (.connection text))

/-- A sync whose plan changes nothing is shown and carried out alike. -/
theorem Rehearses.of_same {asked : List Call} {planned : Log}
    (hasks : ∀ c ∈ asked, c.isExecute = false) (hplans : ∀ e ∈ planned, e.origin = .planning)
    {result : Except SyncError Outcome} (hnone : ∀ out, result = .ok out → out.statements = [])
    (hidle : ∀ out, result = .ok out → out.plan.changed = false) :
    Rehearses d o s j (result, ⟨j.state ++ asked, j.log ++ planned⟩)
      (result, ⟨j.state ++ asked, j.log ++ planned⟩) asked planned [] where
  asks := hasks
  plans := hplans
  shown_calls := rfl
  sent_calls := by rw [List.map_nil, List.append_nil]
  fails e := by simp
  statements out hout := by
    rw [hnone out hout, hidle out hout]
    rfl
  shows out hout := by rw [hnone out hout, List.map_nil, List.append_nil]
  sends out hout _ := ⟨(hnone out hout).symm, hout⟩
  stops out hout k hk := by
    rw [hnone out hout] at hk
    exact absurd hk (Nat.not_lt_zero k)

/-- A dry run that shows the statements of an outcome rehearses a run that executes them as far as
no one fails. -/
theorem Rehearses.of_shown {asked : List Call} {planned : Log}
    (hasks : ∀ c ∈ asked, c.isExecute = false) (hplans : ∀ e ∈ planned, e.origin = .planning)
    {out : Outcome} (hchanged : out.plan.changed = true)
    (hstatements : out.statements = out.plan.statements d o.engine)
    {sent : Except SyncError Outcome × Journal (List Call)} {executed : List String}
    (hcalls : sent.2.state = j.state ++ asked ++ executed.map .execute)
    (hfails : ∀ e, sent.1 = .error e → executed ≠ [])
    (hsends : (∀ k < out.statements.length, s.faultAfter j.state k = none) →
      executed = out.statements ∧ sent.1 = .ok out)
    (hstops : ∀ k < out.statements.length, ∀ text, (∀ i < k, s.faultAfter j.state i = none) →
      s.faultAfter j.state k = some text →
        executed = out.statements.take (k + 1) ∧ sent.1 = .error (.backend (.connection text))) :
    Rehearses d o s j (.ok out, ⟨j.state ++ asked, j.log ++ planned ++ planLog out.statements⟩)
      sent asked planned executed where
  asks := hasks
  plans := hplans
  shown_calls := rfl
  sent_calls := hcalls
  fails e := by
    constructor
    · intro h
      cases h
    · rintro ⟨hsent, hnone⟩
      exact absurd hnone (hfails e hsent)
  statements out' hout := by
    rw [← Except.ok.inj hout, hchanged]
    exact hstatements
  shows out' hout := by
    rw [← Except.ok.inj hout]
    rfl
  sends out' hout := by
    rw [← Except.ok.inj hout]
    exact hsends
  stops out' hout := by
    rw [← Except.ok.inj hout]
    exact hstops

/-- Statements that are shown are executed up to the first that fails. -/
theorem Rehearses.of_executeAll {asked : List Call} {planned : Log}
    (hasks : ∀ c ∈ asked, c.isExecute = false) (hplans : ∀ e ∈ planned, e.origin = .planning)
    (table : String) (out : Outcome) (hchanged : out.plan.changed = true)
    (hstatements : out.statements = out.plan.statements d o.engine) :
    ∃ executed, Rehearses d o s j
      (.ok out, ⟨j.state ++ asked, j.log ++ planned ++ planLog out.statements⟩)
      ((executeAll (s.backend d) table out.statements >>= fun _ => pure out).run
        ⟨j.state ++ asked, j.log ++ planned⟩) asked planned executed := by
  rcases run_executeAll d s table out.statements ⟨j.state ++ asked, j.log ++ planned⟩ with
    ⟨log, hnone, hrun⟩ | ⟨k, text, log, hk, hnone, hsome, hrun⟩
  · simp only [faultAfter_append hasks] at hnone
    refine ⟨out.statements, ?_⟩
    rw [run_bind_ok hrun, run_pure]
    refine .of_shown hasks hplans hchanged hstatements rfl (by simp) (fun _ => ⟨rfl, rfl⟩) ?_
    -- no statement fails
    intro k hk text _ hsome
    rw [hnone k hk] at hsome
    cases hsome
  · simp only [faultAfter_append hasks] at hnone hsome
    refine ⟨out.statements.take (k + 1), ?_⟩
    rw [run_bind_error hrun]
    refine .of_shown hasks hplans hchanged hstatements rfl ?_ ?_ ?_
    · -- the statement that failed was executed
      intro e _ hempty
      have hlength := congrArg List.length hempty
      rw [List.length_take, List.length_nil] at hlength
      omega
    · intro hfree
      rw [hfree k hk] at hsome
      cases hsome
    · intro k' _ text' hnone' hsome'
      obtain ⟨rfl, rfl⟩ := faultAfter_first hnone hsome hnone' hsome'
      exact ⟨rfl, rfl⟩

/-- **A plan that is shown rehearses the same plan that is sent.** -/
theorem Rehearses.of_carryOut {asked : List Call} {planned : Log}
    (hasks : ∀ c ∈ asked, c.isExecute = false) (hplans : ∀ e ∈ planned, e.origin = .planning)
    (p : WrittenPlan) (counters : Counters) :
    ∃ executed, Rehearses d o s j
      ((carryOut (s.backend d) { o with planOnly := true } p >>= fun sqls =>
        pure ⟨p, counters, sqls⟩).run ⟨j.state ++ asked, j.log ++ planned⟩)
      ((carryOut (s.backend d) { o with planOnly := false } p >>= fun sqls =>
        pure ⟨p, counters, sqls⟩).run ⟨j.state ++ asked, j.log ++ planned⟩)
      asked planned executed := by
  unfold carryOut
  cases hchanged : p.changed with
  | false =>
      refine ⟨[], ?_⟩
      simp only [Bool.false_eq_true, if_false, run_bind, run_pure]
      exact .of_same hasks hplans (by simp) (by simp [hchanged])
  | true =>
      let out : Outcome := ⟨p, counters, p.statements d o.engine⟩
      obtain ⟨executed, h⟩ := Rehearses.of_executeAll (s := s) (d := d) (o := o) (j := j)
        hasks hplans p.table out hchanged rfl
      refine ⟨executed, ?_⟩
      simp only [if_true, Bool.false_eq_true, if_false, run_bind, run_note, run_pure] at h ⊢
      have hdialect : (s.backend d).dialect = d := rfl
      rw [hdialect]
      cases hsent : (executeAll (s.backend d) p.table (p.statements d o.engine)).run
          ⟨j.state ++ asked, j.log ++ planned⟩ with
      | mk sent j' =>
          rw [hsent] at h
          cases sent <;> exact h

/-- **Every dry run rehearses the sync that it stands for.** -/
theorem rehearses_syncTable (d : Dialect) (s : Script) (o : Options) (t : Definition)
    (j : Journal (List Call)) :
    ∃ asked planned executed, Rehearses d o s j
      ((syncTable (s.backend d) { o with planOnly := true } t).run j)
      ((syncTable (s.backend d) { o with planOnly := false } t).run j) asked planned executed := by
  have hlike : ∀ fields planOnly, planTable (s.backend d) { o with planOnly := planOnly } t fields =
      planTable (s.backend d) o t fields :=
    fun fields planOnly => planTable_congr (o.plansLike_planOnly d planOnly) t fields
  -- both runs read and plan alike, so they part only where the plan is carried out
  simp only [syncTable, hlike]
  cases hread : t.readFields (s.backend d).dialect with
  | error e =>
      rw [← hread, run_bind_error (run_read_error hread j), run_bind_error (run_read_error hread j)]
      have hsame : Rehearses d o s j (.error (.rule e), ⟨j.state ++ [], j.log ++ []⟩)
          (.error (.rule e), ⟨j.state ++ [], j.log ++ []⟩) [] [] [] :=
        .of_same (by simp) (by simp) (by simp) (by simp)
      rw [List.append_nil, List.append_nil] at hsame
      exact ⟨[], [], [], hsame⟩
  | ok fields =>
      rw [← hread, run_bind_ok (run_read hread j), run_bind_ok (run_read hread j)]
      obtain ⟨result, asked, planned, hasks, hplans, hrun⟩ := asksOnly_planTable d s o t fields j
      cases result with
      | error e =>
          rw [run_bind_error hrun, run_bind_error hrun]
          exact ⟨asked, planned, [], .of_same hasks hplans (by simp) (by simp)⟩
      | ok p =>
          rw [run_bind_ok hrun, run_bind_ok hrun]
          exact ⟨asked, planned,
            Rehearses.of_carryOut hasks hplans (p.plan.write d o.engine) p.counters⟩

/-- A script without tables, whose second statement fails. -/
def failing : Script where
  tables _ := none
  executeFault n := if n = 2 then some "disk full" else none

example : executed ((syncTable (failing.backend .sqlite) { planOnly := true } users).run
    ⟨[], []⟩).2.state = 0 := by decide +kernel

example : executed ((syncTable (failing.backend .sqlite) {} users).run ⟨[], []⟩).2.state = 2 := by
  decide +kernel

end Script

end Conform

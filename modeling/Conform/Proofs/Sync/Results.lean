/-
**The results of a run, and a run that changes nothing.**

A run syncs its tables one after the other; each sync finds the state that the one before it leaves,
whether that one failed or not.  A run succeeds exactly when all of these syncs do.  If it only
shows its statements, and the questions of the backend change nothing, then the run changes nothing.

Main definitions:

* `syncResults` — **the results of the syncs of a run**;
* `LeavesState` — that a session leaves the state of the backend as it is;
* `Backend.OnlyAnswers` — that the questions of a backend do.

Main results:

* `isSuccess_syncAll` — **a run succeeds exactly when all of its syncs do**;
* `Backend.OnlyAnswers.syncAll` — **a run that only shows its statements changes nothing**.
-/

import Conform.Proofs.Sync.Correspondence
import Conform.Proofs.Sync.Sessions

set_option relaxedAutoImplicit false
set_option autoImplicit false

namespace Conform

open Session

variable {σ α β : Type} {b : Backend σ} {o : Options}

/-! ### Results -/

/-- **The results of the syncs of a run**, in the order of its tables. -/
def syncResults (b : Backend σ) (o : Options) :
    List Definition → σ → List (Except SyncError Outcome)
  | [], _ => []
  | t :: ts, state =>
      let synced := (syncTable b o t).run ⟨state, []⟩
      synced.1 :: syncResults b o ts synced.2.state

theorem Summary.isSuccess_absorb (sum : Summary) (table : String) (isChanged : Bool)
    (counters : Counters) : (sum.absorb table isChanged counters).isSuccess = sum.isSuccess := by
  cases isChanged <;> rfl

theorem Summary.isSuccess_fail (sum : Summary) (table message : String) :
    (sum.fail table message).isSuccess = false := by
  simp [isSuccess, fail]

/-- **A run succeeds exactly when all of its syncs do**, and nothing failed before. -/
theorem isSuccess_foldl_syncStep (sum : Summary) (j : Journal σ) (ts : List Definition) :
    (ts.foldl (syncStep b o) (sum, j)).1.isSuccess = true ↔
      sum.isSuccess = true ∧ ∀ r ∈ syncResults b o ts j.state, ∃ out, r = .ok out := by
  induction ts generalizing sum j with
  | nil => simp [syncResults]
  | cons t ts ih =>
      -- the sync of the first table goes as it goes with an empty log
      have hrun := syncTable_after b o t j.log ⟨j.state, []⟩
      rw [Journal.after_empty] at hrun
      rw [List.foldl_cons, ih, syncResults, List.forall_mem_cons]
      cases hown : (syncTable b o t).run ⟨j.state, []⟩ with
      | mk result own =>
          rw [hown] at hrun
          cases result with
          | ok out =>
              rw [syncStep, hrun]
              simp only [Summary.isSuccess_absorb, Journal.after, Except.ok.injEq, exists_eq',
                true_and]
          | error e =>
              rw [syncStep, hrun]
              simp only [Summary.isSuccess_fail, Bool.false_eq_true, reduceCtorEq, exists_false,
                false_and, and_false]

/-- **A run succeeds exactly when all of its syncs do.** -/
theorem isSuccess_syncAll (ts : List Definition) (j : Journal σ) :
    (syncAll b o ts j).1.isSuccess = true ↔
      ∀ r ∈ syncResults b o ts j.state, ∃ out, r = .ok out := by
  rw [syncAll, isSuccess_foldl_syncStep]
  exact and_iff_right rfl

/-! ### Runs that change nothing -/

/-- **That a session leaves the state of the backend as it is.** -/
def LeavesState (step : Session σ α) : Prop := ∀ j, (step.run j).2.state = j.state

namespace LeavesState

theorem settle (r : Except SyncError α) : LeavesState (settle r : Session σ α) := fun _ => rfl

theorem note (entries : Log) : LeavesState (note entries : Session σ Unit) := fun _ => rfl

theorem ask {call : σ → Answer σ α} (h : ∀ state, (call state).2 = state) :
    LeavesState (ask call) := fun j => h j.state

theorem bind {step : Session σ α} {next : α → Session σ β} (hstep : LeavesState step)
    (hnext : ∀ a, LeavesState (next a)) : LeavesState (step >>= next) := by
  intro j
  have hfirst := hstep j
  rw [run_bind]
  cases hrun : step.run j with
  | mk result j' =>
      rw [hrun] at hfirst
      cases result with
      | error e => exact hfirst
      | ok a => exact (hnext a j').trans hfirst

theorem composes : Composes (LeavesState (σ := σ)) := ⟨fun _ => .settle (.ok _), .bind⟩

end LeavesState

/-- **That the questions of a backend change nothing.** -/
structure Backend.OnlyAnswers (b : Backend σ) : Prop where
  tableExists : ∀ table state, (b.tableExists table state).2 = state
  columns : ∀ table state, (b.columns table state).2 = state
  indexes : ∀ table state, (b.indexes table state).2 = state

namespace Backend.OnlyAnswers

/-- A sync that only shows its statements changes nothing. -/
theorem syncTable (h : b.OnlyAnswers) (hplan : o.planOnly = true) (t : Definition) :
    LeavesState (syncTable b o t) := by
  have hshown : ∀ p : WrittenPlan, LeavesState (carryOut b o p) := by
    intro p
    unfold carryOut
    split
    · exact .bind (.note _) fun _ => .settle (.ok _)
    · exact .settle (.ok _)
  have hplanned : ∀ fields, LeavesState (planTable b o t fields) :=
    LeavesState.composes.planTable (.ask (h.tableExists t.table)) (.ask (h.columns t.table))
      (.ask (h.indexes t.table)) (fun _ _ => .note _) fun _ => .settle _
  exact LeavesState.composes.syncTable (.settle _) hplanned hshown

theorem syncStep (h : b.OnlyAnswers) (hplan : o.planOnly = true) (run : Summary × Journal σ)
    (t : Definition) : (syncStep b o run t).2.state = run.2.state := by
  have hkept := h.syncTable hplan t run.2
  unfold Conform.syncStep
  cases hrun : (Conform.syncTable b o t).run run.2 with
  | mk result j =>
      rw [hrun] at hkept
      cases result <;> exact hkept

/-- **A run that only shows its statements changes nothing.** -/
theorem syncAll (h : b.OnlyAnswers) (hplan : o.planOnly = true) (ts : List Definition)
    (j : Journal σ) : (syncAll b o ts j).2.state = j.state := by
  have hkept : ∀ run : Summary × Journal σ,
      (ts.foldl (Conform.syncStep b o) run).2.state = run.2.state := by
    induction ts with
    | nil => exact fun _ => rfl
    | cons t ts ih => exact fun run => (ih _).trans (h.syncStep hplan run t)
  exact hkept _

end Backend.OnlyAnswers

end Conform

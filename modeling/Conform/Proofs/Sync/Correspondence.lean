/-
**Syncs over backends that correspond.**

A map of journals relates two backends when every call of the one does after the map what that of
the other does before it.  A sync makes its calls and its entries in the same order over either
backend, so it does after the map what it does before it, and so does a run.

The log is the first case: no session reads it, so what stands in the log before a run changes
neither its summary nor the state that it leaves.

Main definitions:

* `Corresponds` — that a session does after a map of journals what another one does before it;
* `Backend.Corresponds` — that two backends have calls that correspond;
* `Journal.after` — a journal with entries before its own.

Main results:

* `Backend.Corresponds.syncTable`, `Backend.Corresponds.syncAll` — **syncs and runs over backends
  that correspond, correspond**;
* `syncTable_after`, `syncAll_after` — **nothing reads the log**.
-/

import Conform.Sync.Run

set_option relaxedAutoImplicit false
set_option autoImplicit false

namespace Conform

open Session

variable {σ τ α β : Type} {f : Journal σ → Journal τ} {b : Backend σ} {b' : Backend τ}

/-! ### Sessions -/

/-- **That a session does after a map of journals what another one does before it.** -/
def Corresponds (f : Journal σ → Journal τ) (step : Session σ α) (step' : Session τ α) : Prop :=
  ∀ j, step'.run (f j) = ((step.run j).1, f (step.run j).2)

namespace Corresponds

theorem settle (r : Except SyncError α) : Corresponds f (settle r) (settle r) := fun _ => rfl

theorem bind {step : Session σ α} {step' : Session τ α} {next : α → Session σ β}
    {next' : α → Session τ β} (hstep : Corresponds f step step')
    (hnext : ∀ a, Corresponds f (next a) (next' a)) :
    Corresponds f (step >>= next) (step' >>= next') := by
  intro j
  rw [run_bind, run_bind, hstep j]
  cases step.run j with
  | mk result j' =>
      cases result with
      | error e => rfl
      | ok a => exact hnext a j'

end Corresponds

/-! ### Syncs -/

/-- **That two backends have calls that correspond** under a map that keeps what is logged. -/
structure Backend.Corresponds (f : Journal σ → Journal τ) (b : Backend σ) (b' : Backend τ) :
    Prop where
  dialect : b'.dialect = b.dialect
  /-- What is logged before the map is logged after it. -/
  logged : ∀ j entries, f ⟨j.state, j.log ++ entries⟩ = ⟨(f j).state, (f j).log ++ entries⟩
  tableExists : ∀ table,
    Conform.Corresponds f (ask (b.tableExists table)) (ask (b'.tableExists table))
  columns : ∀ table, Conform.Corresponds f (ask (b.columns table)) (ask (b'.columns table))
  indexes : ∀ table, Conform.Corresponds f (ask (b.indexes table)) (ask (b'.indexes table))
  execute : ∀ sql, Conform.Corresponds f (ask (b.execute sql)) (ask (b'.execute sql))

namespace Backend.Corresponds

theorem note (h : b.Corresponds f b') (entries : Log) :
    Conform.Corresponds f (note entries) (note entries) := fun j => by
  rw [run_note, run_note, h.logged]

theorem planTable (h : b.Corresponds f b') (o : Options) (t : Definition) (fields : List Field) :
    Conform.Corresponds f (planTable b o t fields) (planTable b' o t fields) := by
  unfold Conform.planTable
  rw [h.dialect]
  refine .bind (h.tableExists t.table) fun there => ?_
  cases there with
  | false => exact .bind (h.note _) fun _ => .settle (.ok _)
  | true =>
      exact .bind (h.columns t.table) fun columns => .bind (h.indexes t.table) fun indexes =>
        .bind (h.note _) fun _ => .bind (h.note _) fun _ => .settle _

theorem executeAll (h : b.Corresponds f b') (table : String) (sqls : List String) :
    Conform.Corresponds f (executeAll b table sqls) (executeAll b' table sqls) := by
  induction sqls with
  | nil => exact .settle (.ok ())
  | cons sql rest ih => exact .bind (h.note _) fun _ => .bind (h.execute sql) fun _ => ih

theorem carryOut (h : b.Corresponds f b') (o : Options) (p : WrittenPlan) :
    Conform.Corresponds f (carryOut b o p) (carryOut b' o p) := by
  unfold Conform.carryOut
  rw [h.dialect]
  split
  · dsimp only
    split
    · exact .bind (h.note _) fun _ => .settle (.ok _)
    · exact .bind (h.executeAll p.table _) fun _ => .settle (.ok _)
  · exact .settle (.ok _)

/-- **Syncs over backends that correspond, correspond.** -/
theorem syncTable (h : b.Corresponds f b') (o : Options) (t : Definition) :
    Conform.Corresponds f (syncTable b o t) (syncTable b' o t) := by
  unfold Conform.syncTable
  rw [h.dialect]
  exact .bind (.settle _) fun fields => .bind (h.planTable o t fields) fun _ =>
    .bind (h.carryOut o _) fun _ => .settle (.ok _)

/-! ### Runs -/

/-- A run goes on after the map as it goes on before it. -/
theorem syncStep (h : b.Corresponds f b') (o : Options) (sum : Summary) (j : Journal σ)
    (t : Definition) :
    syncStep b' o (sum, f j) t =
      ((syncStep b o (sum, j) t).1, f (syncStep b o (sum, j) t).2) := by
  simp only [Conform.syncStep, h.syncTable o t j]
  cases (Conform.syncTable b o t).run j with
  | mk result j' =>
      cases result with
      | ok out => exact congrArg (Prod.mk _) (h.logged j' _).symm
      | error e => exact congrArg (Prod.mk _) (h.logged j' _).symm

theorem foldl_syncStep (h : b.Corresponds f b') (o : Options) (sum : Summary) (j : Journal σ)
    (ts : List Definition) :
    ts.foldl (Conform.syncStep b' o) (sum, f j) =
      ((ts.foldl (Conform.syncStep b o) (sum, j)).1,
        f (ts.foldl (Conform.syncStep b o) (sum, j)).2) := by
  -- the summary that is taken in so far runs along on both sides
  induction ts generalizing sum j with
  | nil => rfl
  | cons t ts ih => rw [List.foldl_cons, List.foldl_cons, h.syncStep, ih]

/-- **Runs over backends that correspond, correspond.** -/
theorem syncAll (h : b.Corresponds f b') (o : Options) (ts : List Definition) (j : Journal σ) :
    syncAll b' o ts (f j) = ((syncAll b o ts j).1, f (syncAll b o ts j).2) :=
  h.foldl_syncStep o _ j ts

end Backend.Corresponds

/-! ### The log -/

/-- **A journal with entries before its own.** -/
def Journal.after (entries : Log) (j : Journal σ) : Journal σ := ⟨j.state, entries ++ j.log⟩

theorem Journal.after_empty (entries : Log) (state : σ) :
    Journal.after entries ⟨state, []⟩ = ⟨state, entries⟩ := by
  rw [after, List.append_nil]

/-- No call looks at the log. -/
theorem Backend.corresponds_after (b : Backend σ) (entries : Log) :
    b.Corresponds (Journal.after entries) b where
  dialect := rfl
  logged j more := by rw [Journal.after, Journal.after, List.append_assoc]
  tableExists _ _ := rfl
  columns _ _ := rfl
  indexes _ _ := rfl
  execute _ _ := rfl

/-- **A sync does not read the log.** -/
theorem syncTable_after (b : Backend σ) (o : Options) (t : Definition) (entries : Log)
    (j : Journal σ) :
    (syncTable b o t).run (j.after entries) =
      (((syncTable b o t).run j).1, ((syncTable b o t).run j).2.after entries) :=
  (b.corresponds_after entries).syncTable o t j

/-- **A run does not read the log.** -/
theorem syncAll_after (b : Backend σ) (o : Options) (ts : List Definition) (entries : Log)
    (j : Journal σ) :
    syncAll b o ts (j.after entries) =
      ((syncAll b o ts j).1, (syncAll b o ts j).2.after entries) :=
  (b.corresponds_after entries).syncAll o ts j

end Conform

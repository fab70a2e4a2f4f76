/-
**Sessions: steps of a sync over a backend, with a log.**
-/

import Conform.Backend.Basic
import Conform.Plan.LiveTable

set_option relaxedAutoImplicit false
set_option autoImplicit false

namespace Conform

/-- **Why the sync of a table fails.** -/
inductive SyncError
  | rule (e : RuleError)
  | typeChange (r : TypeRefusal)
  | backend (e : BackendError)
  deriving DecidableEq, Repr

def SyncError.message : SyncError → String
  | rule e => e.message
  | typeChange r => r.message
  | backend e => e.message

/-- **The state of the backend and the log so far.** -/
structure Journal (σ : Type) where
  state : σ
  log : Log := []
  deriving Repr

/-- **A step that changes the journal and may fail.**  What was done before a failure stays. -/
abbrev Session (σ : Type) : Type → Type := ExceptT SyncError (StateM (Journal σ))

namespace Session

variable {σ α : Type}

def ask (call : σ → Answer σ α) : Session σ α := fun j =>
  let (answer, state) := call j.state
  (answer.mapError .backend, { j with state := state })

def note (entries : Log) : Session σ Unit := fun j => (.ok (), { j with log := j.log ++ entries })

def settle (r : Except SyncError α) : Session σ α := fun j => (r, j)

def run (s : Session σ α) (j : Journal σ) : Except SyncError α × Journal σ := s j

@[simp] theorem run_ask (call : σ → Answer σ α) (j : Journal σ) :
    (ask call).run j =
      ((call j.state).1.mapError .backend, { j with state := (call j.state).2 }) := rfl

@[simp] theorem run_note (entries : Log) (j : Journal σ) :
    (note entries).run j = (.ok (), { j with log := j.log ++ entries }) := rfl

@[simp] theorem run_settle (r : Except SyncError α) (j : Journal σ) :
    (settle r : Session σ α).run j = (r, j) := rfl

@[simp] theorem run_pure (a : α) (j : Journal σ) : (pure a : Session σ α).run j = (.ok a, j) := rfl

/-- A session goes on only after a success. -/
theorem run_bind {β : Type} (s : Session σ α) (f : α → Session σ β) (j : Journal σ) :
    (s >>= f).run j =
      match s.run j with
      | (.ok a, j') => (f a).run j'
      | (.error e, j') => (.error e, j') := by
  simp only [run, bind, ExceptT.bind, ExceptT.mk, StateT.bind, ExceptT.bindCont]
  cases s j with
  | mk r j' => cases r <;> rfl

theorem run_bind_ok {β : Type} {s : Session σ α} {f : α → Session σ β} {j j' : Journal σ} {a : α}
    (h : s.run j = (.ok a, j')) : (s >>= f).run j = (f a).run j' := by
  rw [run_bind, h]

theorem run_bind_error {β : Type} {s : Session σ α} {f : α → Session σ β} {j j' : Journal σ}
    {e : SyncError} (h : s.run j = (.error e, j')) : (s >>= f).run j = (.error e, j') := by
  rw [run_bind, h]

theorem run_ask_ok {call : σ → Answer σ α} {j : Journal σ} {a : α} {state : σ}
    (h : call j.state = (.ok a, state)) : (ask call).run j = (.ok a, ⟨state, j.log⟩) := by
  rw [run_ask, h]
  rfl

theorem run_ask_error {call : σ → Answer σ α} {j : Journal σ} {e : BackendError} {state : σ}
    (h : call j.state = (.error e, state)) :
    (ask call).run j = (.error (.backend e), ⟨state, j.log⟩) := by
  rw [run_ask, h]
  rfl

end Session

end Conform

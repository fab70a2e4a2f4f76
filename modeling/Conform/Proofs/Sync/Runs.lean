/-
**A run over many tables is the syncs of its tables, one after the other.**

The backend follows a script, which may let any call fail; a statement fails by its number in the
whole run.  So the sync of a table knows of the tables before it only how many statements they
executed, and it goes as it would go on its own, with a script whose count begins there.  A run
makes the calls of these syncs one after the other, and its summary has one entry for each of them.

Main definitions:

* `Continues` — that a session goes on after a journal as another one does on its own;
* `Script.after` — the script as it goes on after some statements;
* `Turn` — what became of one table, and `Turn.fate`, its entry in the summary;
* `Script.turns` — **the syncs of a list of tables**, each on its own;
* `Summary.Tells` — that a summary has the entries and the counters of some turns;
* `Script.RunFacts` — **what is known of a run over many tables**.

Main results:

* `Script.corresponds_after` — after a trace a script answers as its rest does on its own;
* `Script.continues_syncTable` — **a sync looks at the number of executed statements only**;
* `Script.foldl_syncStep` — a run makes the calls of its turns and takes them in;
* `Summary.permutes_of_tells` — turns in another order give the same counters;
* `Script.run_syncAll` — **a run over many tables is the syncs of its tables**.
-/

import Conform.Proofs.Sync.Correspondence
import Conform.Proofs.Sync.Refusals

set_option relaxedAutoImplicit false
set_option autoImplicit false

namespace Conform

open Session

variable {d : Dialect} {s : Script} {o : Options}

/-! ### Sessions that go on -/

/-- A journal that goes on with another one. -/
instance : Append (Journal (List Call)) where
  append before j := ⟨before.state ++ j.state, before.log ++ j.log⟩

theorem Journal.append_def (before j : Journal (List Call)) :
    before ++ j = ⟨before.state ++ j.state, before.log ++ j.log⟩ := rfl

@[simp] theorem Journal.append_empty (before : Journal (List Call)) :
    before ++ (⟨[], []⟩ : Journal (List Call)) = before := by
  rw [Journal.append_def, List.append_nil, List.append_nil]

/-- **That a session goes on after a journal as another one does on its own.** -/
def Continues {α : Type} (before : Journal (List Call)) (step own : Session (List Call) α) : Prop :=
  ∀ j, step.run (before ++ j) = ((own.run j).1, before ++ (own.run j).2)

namespace Script

/-- **The script as it goes on** after some statements were executed. -/
def after (s : Script) (n : Nat) : Script :=
  { s with executeFault := fun k => s.executeFault (n + k) }

theorem executed_append (trace more : List Call) :
    executed (trace ++ more) = executed trace + executed more := List.countP_append

/-- **After a trace a script answers as its rest does on its own**: questions do not look at the
trace, and statements are counted from it on. -/
theorem corresponds_after (before : Journal (List Call)) :
    ((s.after (executed before.state)).backend d).Corresponds (before ++ ·) (s.backend d) where
  dialect := rfl
  logged j entries := by simp only [Journal.append_def, List.append_assoc]
  tableExists table j := by
    simp only [run_ask, backend, after, Journal.append_def, List.append_assoc]
  columns table j := by simp only [run_ask, backend, after, Journal.append_def, List.append_assoc]
  indexes table j := by simp only [run_ask, backend, after, Journal.append_def, List.append_assoc]
  execute sql j := by
    simp only [run_ask, backend, after, Journal.append_def, executed_append, List.append_assoc,
      Nat.add_assoc]

theorem continues_carryOut (before : Journal (List Call)) (p : WrittenPlan) :
    Continues before (carryOut (s.backend d) o p)
      (carryOut ((s.after (executed before.state)).backend d) o p) :=
  (corresponds_after before).carryOut o p

/-- **A sync looks at the number of executed statements only**: after a trace it goes as it goes on
its own, with the script as it goes on after that many. -/
theorem continues_syncTable (before : Journal (List Call)) (t : Definition) :
    Continues before (syncTable (s.backend d) o t)
      (syncTable ((s.after (executed before.state)).backend d) o t) :=
  (corresponds_after before).syncTable o t

end Script

/-! ### The table of an outcome -/

/-- A session that succeeds has succeeded in both of its parts. -/
theorem run_bind_eq_ok {σ α β : Type} {step : Session σ α} {next : α → Session σ β}
    {j j' : Journal σ} {b : β} (h : (step >>= next).run j = (.ok b, j')) :
    ∃ a j₁, step.run j = (.ok a, j₁) ∧ (next a).run j₁ = (.ok b, j') := by
  rw [run_bind] at h
  cases hstep : step.run j with
  | mk result j₁ =>
      rw [hstep] at h
      cases result with
      | error e => cases h
      | ok a => exact ⟨a, j₁, rfl, h⟩

/-- The plan of a table is about that table. -/
theorem table_of_planTable {σ : Type} {b : Backend σ} {t : Definition} {fields : List Field}
    {p : Planned} {j j' : Journal σ} (h : (planTable b o t fields).run j = (.ok p, j')) :
    p.plan.table = t.table := by
  unfold planTable at h
  obtain ⟨there, _, -, h⟩ := run_bind_eq_ok h
  cases there with
  | false =>
      cases h
      rfl
  | true =>
      rw [if_pos rfl] at h
      obtain ⟨columns, _, -, h⟩ := run_bind_eq_ok h
      obtain ⟨indexes, _, -, h⟩ := run_bind_eq_ok h
      obtain ⟨_, _, -, h⟩ := run_bind_eq_ok h
      obtain ⟨_, _, -, h⟩ := run_bind_eq_ok h
      rw [run_settle] at h
      cases hplan : planLiveTable b.dialect o t.table fields ⟨columns, indexes⟩ with
      | error e =>
          rw [hplan] at h
          cases h
      | ok planned =>
          rw [hplan] at h
          cases h
          obtain ⟨a, -, rfl⟩ := planLiveTable_eq_ok_iff.1 hplan
          rfl

/-- **The plan of a sync that succeeds is about its table.** -/
theorem table_of_syncTable {σ : Type} {b : Backend σ} {t : Definition} {out : Outcome}
    {j j' : Journal σ} (h : (syncTable b o t).run j = (.ok out, j')) :
    out.plan.table = t.table := by
  unfold syncTable at h
  obtain ⟨fields, _, -, h⟩ := run_bind_eq_ok h
  obtain ⟨p, _, hplanned, h⟩ := run_bind_eq_ok h
  obtain ⟨sent, _, -, h⟩ := run_bind_eq_ok h
  cases h
  exact table_of_planTable hplanned

/-! ### Turns -/

/-- **The one entry that a table makes in a summary.** -/
inductive Fate
  | changed (table : String)
  | unchanged (table : String)
  | failed (f : Failure)
  deriving DecidableEq, Repr

/-- The table of an entry among the changed ones. -/
def Fate.changed? : Fate → Option String
  | changed table => some table
  | unchanged _ | failed _ => none

/-- The table of an entry among the unchanged ones. -/
def Fate.unchanged? : Fate → Option String
  | unchanged table => some table
  | changed _ | failed _ => none

/-- The failure of an entry among the failures. -/
def Fate.failure? : Fate → Option Failure
  | failed f => some f
  | changed _ | unchanged _ => none

/-- **What became of one table**: the result of its sync, its calls, and what it logged. -/
structure Turn where
  table : String
  result : Except SyncError Outcome
  calls : List Call
  log : Log

namespace Turn

/-- **The entry of a turn in the summary.** -/
def fate (u : Turn) : Fate :=
  match u.result with
  | .ok out => if out.plan.changed then .changed u.table else .unchanged u.table
  | .error e => .failed ⟨u.table, e.message⟩

/-- The counters of a turn; those of a failed one do not count. -/
def counters (u : Turn) : Counters :=
  match u.result with
  | .ok out => out.counters
  | .error _ => 0

/-- What a run logs after a turn. -/
def entry (u : Turn) : Conform.Entry :=
  match u.result with
  | .ok out => ⟨.info, .run, out.plan.report⟩
  | .error e => ⟨.error, .run, s!"{u.table}: {e.message}"⟩

end Turn

namespace Script

/-- **The sync of a table on its own**, where `n` statements were executed before. -/
def turn (d : Dialect) (s : Script) (o : Options) (n : Nat) (t : Definition) : Turn :=
  let synced := (syncTable ((s.after n).backend d) o t).run ⟨[], []⟩
  ⟨t.table, synced.1, synced.2.state, synced.2.log⟩

/-- **The syncs of a list of tables**, each on its own.  Only the number of executed statements runs
on from one to the next. -/
def turns (d : Dialect) (s : Script) (o : Options) : Nat → List Definition → List Turn
  | _, [] => []
  | n, t :: ts => s.turn d o n t :: turns d s o (n + executed (s.turn d o n t).calls) ts

end Script

/-! ### Runs -/

namespace Summary

/-- A summary with one turn more. -/
def take (sum : Summary) (u : Turn) : Summary :=
  { sum with
    counters := sum.counters + u.counters
    changed := sum.changed ++ u.fate.changed?.toList
    unchanged := sum.unchanged ++ u.fate.unchanged?.toList
    failures := sum.failures ++ u.fate.failure?.toList }

/-- A list of turns is taken in one after the other, each in its place. -/
theorem foldl_take (sum : Summary) (us : List Turn) :
    us.foldl take sum =
      { sum with
        counters := sum.counters + (us.map (·.counters)).sum
        changed := sum.changed ++ (us.map (·.fate)).filterMap Fate.changed?
        unchanged := sum.unchanged ++ (us.map (·.fate)).filterMap Fate.unchanged?
        failures := sum.failures ++ (us.map (·.fate)).filterMap Fate.failure? } := by
  have hcons : ∀ {α β : Type} (f : α → Option β) (a : α) (as : List α),
      (a :: as).filterMap f = (f a).toList ++ as.filterMap f := by
    intro α β f a as
    cases h : f a <;> simp [h]
  induction us generalizing sum with
  | nil => simp [Counters.add_zero]
  | cons u us ih =>
      rw [List.foldl_cons, ih]
      simp only [take, List.map_cons, List.sum_cons, hcons, List.append_assoc, Counters.add_assoc]

end Summary

namespace Script

/-- **A run takes in the turn of the next table**, which goes on where the run is. -/
theorem syncStep_eq (sum : Summary) (j : Journal (List Call)) (t : Definition) :
    syncStep (s.backend d) o (sum, j) t =
      (sum.take (s.turn d o (executed j.state) t),
        j ++ ⟨(s.turn d o (executed j.state) t).calls, (s.turn d o (executed j.state) t).log ++
          [(s.turn d o (executed j.state) t).entry]⟩) := by
  have hgoes := continues_syncTable (d := d) (s := s) (o := o) j t ⟨[], []⟩
  rw [Journal.append_empty] at hgoes
  simp only [syncStep, hgoes, turn]
  cases hown : (syncTable ((s.after (executed j.state)).backend d) o t).run ⟨[], []⟩ with
  | mk result own =>
      cases result with
      | ok out =>
          have htable : out.plan.table = t.table := table_of_syncTable hown
          simp only [Summary.absorb, Summary.take, Turn.fate, Turn.counters, Turn.entry, htable,
            Journal.append_def, List.append_assoc]
          cases out.plan.changed <;> simp [Fate.changed?, Fate.unchanged?, Fate.failure?]
      | error e =>
          simp [Summary.fail, Summary.take, Turn.fate, Turn.counters, Turn.entry, Fate.changed?,
            Fate.unchanged?, Fate.failure?, Journal.append_def, Counters.add_zero]

/-- **A run makes the calls of its turns, one after the other, and takes them in.** -/
theorem foldl_syncStep (sum : Summary) (j : Journal (List Call)) (ts : List Definition) :
    ts.foldl (syncStep (s.backend d) o) (sum, j) =
      ((s.turns d o (executed j.state) ts).foldl Summary.take sum,
        j ++ ⟨(s.turns d o (executed j.state) ts).flatMap (·.calls),
          (s.turns d o (executed j.state) ts).flatMap fun u => u.log ++ [u.entry]⟩) := by
  induction ts generalizing sum j with
  | nil =>
      exact congrArg (Prod.mk sum) (Journal.append_empty j).symm
  | cons t ts ih =>
      -- the run goes on from the summary and the journal after the first turn
      rw [List.foldl_cons, syncStep_eq, ih]
      simp only [turns, Journal.append_def, executed_append, List.foldl_cons, List.flatMap_cons,
        List.append_assoc]

/-- **Turns depend on the tables before them by the number of statements only.** -/
theorem turns_append (n : Nat) (ts ts' : List Definition) :
    s.turns d o n (ts ++ ts') = s.turns d o n ts ++
      s.turns d o (n + executed ((s.turns d o n ts).flatMap (·.calls))) ts' := by
  induction ts generalizing n with
  | nil => rfl
  | cons t ts ih =>
      simp only [List.cons_append, turns, ih, List.flatMap_cons, executed_append, Nat.add_assoc]

theorem table_turns (n : Nat) (ts : List Definition) :
    (s.turns d o n ts).map (·.table) = ts.map (·.table) := by
  induction ts generalizing n with
  | nil => rfl
  | cons t ts ih => exact congrArg (t.table :: ·) (ih _)

/-- Where no statement fails, the number of statements before a table does not matter. -/
theorem turns_of_faultless (h : ∀ n, s.executeFault n = none) (n : Nat) (ts : List Definition) :
    s.turns d o n ts = ts.map (s.turn d o 0) := by
  have hafter : ∀ n, s.after n = s.after 0 := by
    intro n
    simp only [after, h]
  have hturn : ∀ n t, s.turn d o n t = s.turn d o 0 t := by
    intro n t
    rw [turn, hafter]
    rfl
  induction ts generalizing n with
  | nil => rfl
  | cons t ts ih => rw [turns, ih, hturn, List.map_cons]

end Script

/-! ### Summaries -/

namespace Summary

/-- **That a summary has the entries and the counters of some turns**: each turn has one entry, the
lists have them in order, and the counters are summed up. -/
structure Tells (sum : Summary) (o : Options) (us : List Turn) : Prop where
  planOnly : sum.planOnly = o.planOnly
  counters : sum.counters = (us.map (·.counters)).sum
  changed : sum.changed = (us.map (·.fate)).filterMap Fate.changed?
  unchanged : sum.unchanged = (us.map (·.fate)).filterMap Fate.unchanged?
  failures : sum.failures = (us.map (·.fate)).filterMap Fate.failure?

/-- **That a summary has the entries of another one in another order**, and the same counters. -/
structure Permutes (sum sum' : Summary) : Prop where
  planOnly : sum.planOnly = sum'.planOnly
  counters : sum.counters = sum'.counters
  changed : sum.changed.Perm sum'.changed
  unchanged : sum.unchanged.Perm sum'.unchanged
  failures : sum.failures.Perm sum'.failures

end Summary

/-- The order of the summands does not matter. -/
theorem Counters.sum_perm {cs cs' : List Counters} (h : cs.Perm cs') : cs.sum = cs'.sum := by
  induction h with
  | nil => rfl
  | cons c _ ih => rw [List.sum_cons, List.sum_cons, ih]
  | swap a b cs =>
      simp only [List.sum_cons]
      rw [← Counters.add_assoc, Counters.add_comm b a, Counters.add_assoc]
  | trans _ _ ih ih' => exact ih.trans ih'

/-- **Turns in another order give the same entries in another order.** -/
theorem Summary.permutes_of_tells {sum sum' : Summary} {us us' : List Turn} (h : sum.Tells o us)
    (h' : sum'.Tells o us') (hperm : us.Perm us') : sum.Permutes sum' where
  planOnly := h.planOnly.trans h'.planOnly.symm
  counters := by
    rw [h.counters, h'.counters]
    exact Counters.sum_perm (hperm.map _)
  changed := by
    rw [h.changed, h'.changed]
    exact (hperm.map _).filterMap _
  unchanged := by
    rw [h.unchanged, h'.unchanged]
    exact (hperm.map _).filterMap _
  failures := by
    rw [h.failures, h'.failures]
    exact (hperm.map _).filterMap _

namespace Script

/-- **The summary of a run tells its turns.** -/
theorem tells_syncAll (ts : List Definition) (j : Journal (List Call)) :
    (syncAll (s.backend d) o ts j).1.Tells o (s.turns d o (executed j.state) ts) := by
  have hsum : (syncAll (s.backend d) o ts j).1 =
      (s.turns d o (executed j.state) ts).foldl Summary.take { planOnly := o.planOnly } :=
    congrArg Prod.fst (foldl_syncStep _ j ts)
  rw [Summary.foldl_take] at hsum
  rw [hsum]
  exact ⟨rfl, Counters.zero_add _, rfl, rfl, rfl⟩

/-- **The turns before a table, its own and those after it**: a table concerns the later ones by the
number of its statements only. -/
theorem turns_around (j : Journal (List Call)) (earlier : List Definition) (t : Definition)
    (later : List Definition) :
    ∃ n u,
      n = executed (j.state ++ (s.turns d o (executed j.state) earlier).flatMap (·.calls)) ∧
      u = s.turn d o n t ∧
      s.turns d o (executed j.state) (earlier ++ t :: later) =
        s.turns d o (executed j.state) earlier ++
          u :: s.turns d o (n + executed u.calls) later := by
  refine ⟨_, _, rfl, rfl, ?_⟩
  rw [turns_append, executed_append]
  rfl

/-- **Where no statement fails, the order of the tables is the order of the entries** and nothing
else. -/
theorem permutes_syncAll (hfree : ∀ n, s.executeFault n = none) {ts ts' : List Definition}
    (hperm : ts.Perm ts') (j j' : Journal (List Call)) :
    (syncAll (s.backend d) o ts j).1.Permutes (syncAll (s.backend d) o ts' j').1 := by
  refine Summary.permutes_of_tells (tells_syncAll ts j) (tells_syncAll ts' j') ?_
  rw [turns_of_faultless hfree, turns_of_faultless hfree]
  exact hperm.map _

/-- **What is known of a run over many tables.** -/
structure RunFacts (d : Dialect) (s : Script) (o : Options) (ts : List Definition)
    (j : Journal (List Call)) : Prop where
  calls : (syncAll (s.backend d) o ts j).2.state =
    j.state ++ (s.turns d o (executed j.state) ts).flatMap (·.calls)
  log : (syncAll (s.backend d) o ts j).2.log =
    j.log ++ (s.turns d o (executed j.state) ts).flatMap fun u => u.log ++ [u.entry]
  /-- The summary has one entry for each table, in order, and the sums of the counters of those that
  succeed. -/
  tells : (syncAll (s.backend d) o ts j).1.Tells o (s.turns d o (executed j.state) ts)
  tables : (s.turns d o (executed j.state) ts).map (·.table) = ts.map (·.table)
  /-- A table, failed or not, concerns the later ones by the number of its statements only. -/
  around : ∀ earlier t later, ts = earlier ++ t :: later →
    ∃ n u,
      n = executed (j.state ++ (s.turns d o (executed j.state) earlier).flatMap (·.calls)) ∧
      u = s.turn d o n t ∧
      s.turns d o (executed j.state) ts =
        s.turns d o (executed j.state) earlier ++ u :: s.turns d o (n + executed u.calls) later
  /-- Where no statement fails, each sync goes as it would go on its own. -/
  alone : (∀ n, s.executeFault n = none) →
    s.turns d o (executed j.state) ts = ts.map (s.turn d o 0)
  /-- Then the order of the tables is the order of the entries and nothing else. -/
  reorders : (∀ n, s.executeFault n = none) → ∀ ts' j', ts.Perm ts' →
    s.turns d o (executed j'.state) ts' = ts'.map (s.turn d o 0) ∧
      (syncAll (s.backend d) o ts j).1.Permutes (syncAll (s.backend d) o ts' j').1

/-- **A run over many tables is the syncs of its tables**: it makes their calls one after the
other, and its summary has one entry for each of them. -/
theorem run_syncAll (d : Dialect) (s : Script) (o : Options) (ts : List Definition)
    (j : Journal (List Call)) : RunFacts d s o ts j where
  calls := congrArg (·.2.state) (foldl_syncStep { planOnly := o.planOnly } j ts)
  log := congrArg (·.2.log) (foldl_syncStep { planOnly := o.planOnly } j ts)
  tells := tells_syncAll ts j
  tables := table_turns _ ts
  around earlier t later hts := by
    rw [hts]
    exact turns_around j earlier t later
  alone hfree := turns_of_faultless hfree _ ts
  reorders hfree ts' j' hperm :=
    ⟨turns_of_faultless hfree _ ts', permutes_syncAll hfree hperm j j'⟩

/-- A shop whose users have texts for their ages, and that has no other table yet. -/
def shop : Script where
  tables table := if table = "user" then some writtenAges else none

/-- The orders of a shop. -/
def orders : Definition := ⟨"order", none, [("amount", "amount|number|0|900|null|1|null")]⟩

/-- In the shop the users fail and the orders are made, before the users or after them. -/
theorem run_of_shop :
    (∀ n, shop.executeFault n = none) ∧ [agedUsers, orders].Perm [orders, agedUsers] ∧
      ((shop.turns .mysql {} 0 [agedUsers, orders]).map (·.fate) =
        [.failed ⟨"user", (SyncError.typeChange ⟨"user", "age", "VARCHAR(3)", "BIGINT"⟩).message⟩,
          .changed "order"]) ∧
      (syncAll (shop.backend .mysql) {} [agedUsers, orders] ⟨[], []⟩).1.Tells {}
        (shop.turns .mysql {} 0 [agedUsers, orders]) ∧
      (syncAll (shop.backend .mysql) {} [agedUsers, orders] ⟨[], []⟩).1.Permutes
        (syncAll (shop.backend .mysql) {} [orders, agedUsers] ⟨[], []⟩).1 := by
  have hperm : [agedUsers, orders].Perm [orders, agedUsers] := .swap ..
  have hrun := run_syncAll .mysql shop {} [agedUsers, orders] ⟨[], []⟩
  exact ⟨fun _ => rfl, hperm, by decide +kernel, hrun.tells,
    (hrun.reorders (fun _ => rfl) _ ⟨[], []⟩ hperm).2⟩

end Script

end Conform

/-
**What a sync refuses of what a definition has wrong.**

A definition has the errors of its fields, and one more if its table has a blank name.  A sync reads
the fields before anything else, so it ends with the first of their errors, in the journal in which
it began, and nothing after the reading ends with such an error.  It does not look at the name:
where only that is wrong, the database is asked for a table with a blank name.

Main definitions:

* `NoRuleError` — that a session does not end with the error of a rule.

Main results:

* `run_syncTable_eq_rule_iff` — **a sync ends with the error of a rule exactly when a field has
  one**, and then nothing was done;
* `rule_error_iff_fieldErrors` — **both together, and what becomes of a blank name**.
-/

import Conform.Proofs.Sync.Runs

set_option relaxedAutoImplicit false
set_option autoImplicit false

namespace Conform

open Session

variable {d : Dialect} {o : Options} {t : Definition} {σ : Type} {b : Backend σ}

/-! ### Sessions after the reading -/

/-- **That a session does not end with the error of a rule.** -/
def NoRuleError {α : Type} (step : Session σ α) : Prop :=
  ∀ j e, (step.run j).1 ≠ .error (.rule e)

namespace NoRuleError

variable {α β : Type}

theorem settle {r : Except SyncError α} (h : ∀ e, r ≠ .error (.rule e)) :
    NoRuleError (settle r : Session σ α) := fun _ => h

theorem ask (call : σ → Answer σ α) : NoRuleError (ask call) := by
  intro j e
  rw [run_ask]
  cases (call j.state).1 <;> nofun

theorem note (entries : Log) : NoRuleError (note entries : Session σ Unit) := by
  intro j e h
  cases h

theorem bind {step : Session σ α} {next : α → Session σ β} (hstep : NoRuleError step)
    (hnext : ∀ a, NoRuleError (next a)) : NoRuleError (step >>= next) := by
  intro j e
  rw [run_bind]
  have hfree := hstep j
  cases hrun : step.run j with
  | mk result j' =>
      rw [hrun] at hfree
      cases result with
      | ok a => exact hnext a j' e
      | error e' =>
          intro h
          exact hfree e (congrArg Except.error (Except.error.inj h))

theorem composes : Composes (NoRuleError (σ := σ)) := ⟨fun _ => .settle fun _ => by simp, .bind⟩

end NoRuleError

/-! ### Syncs -/

/-- **A sync ends with the error of a rule exactly when a field has one.**  It is the first of them,
and the backend was asked for nothing. -/
theorem run_syncTable_eq_rule_iff {j j' : Journal σ} {e : RuleError} :
    (syncTable b o t).run j = (.error (.rule e), j') ↔
      (t.fieldErrors b.dialect).head? = some e ∧ j' = j := by
  rw [← Definition.readFields_eq_error_iff]
  cases hread : t.readFields b.dialect with
  | error e' =>
      rw [syncTable, run_bind_error (run_read_error hread j)]
      simp [eq_comm]
  | ok fields =>
      -- the fields are read, and nothing after that ends with such an error
      have hafter : NoRuleError (planTable b o t fields >>= fun planned =>
          carryOut b o (planned.plan.write b.dialect o.engine) >>= fun statements =>
            (pure ⟨planned.plan.write b.dialect o.engine, planned.counters, statements⟩ :
              Session σ Outcome)) :=
        .bind (NoRuleError.composes.planTable (.ask _) (.ask _) (.ask _) (fun _ _ => .note _)
          (fun _ => .settle fun _ => by simp) fields) fun _ =>
        .bind (NoRuleError.composes.carryOut (fun _ => .ask _) .note _) fun _ =>
          .settle fun _ => by simp
      rw [syncTable, run_bind_ok (run_read hread j)]
      constructor
      · intro h
        exact absurd (congrArg Prod.fst h) (hafter j e)
      · rintro ⟨h, -⟩
        cases h

/-- A session that goes on after a journal makes its calls after those of the journal. -/
theorem Continues.calls {α : Type} {j : Journal (List Call)} {step own : Session (List Call) α}
    (h : Continues j step own) : ∃ more, (step.run j).2.state = j.state ++ more := by
  have hrun := h ⟨[], []⟩
  rw [Journal.append_empty] at hrun
  exact ⟨_, congrArg (·.2.state) hrun⟩

/-- A session that begins with a call makes it before the others. -/
theorem calls_of_ask {α β : Type} {call : List Call → Answer (List Call) α} {c : Call}
    {next : α → Session (List Call) β} (hcall : ∀ trace, (call trace).2 = trace ++ [c])
    (hnext : ∀ a, AsksOnly (next a)) (j : Journal (List Call)) :
    ∃ more, ((ask call >>= next).run j).2.state = j.state ++ c :: more := by
  rw [run_bind, run_ask, hcall]
  cases (call j.state).1 with
  | error e => exact ⟨[], rfl⟩
  | ok a =>
      obtain ⟨result, asked, planned, -, -, hrun⟩ := hnext a ⟨j.state ++ [c], j.log⟩
      refine ⟨asked, (congrArg (·.2.state) hrun).trans ?_⟩
      exact (List.append_cons ..).symm

namespace Script

/-- **The first call of planning asks for the table.** -/
theorem calls_planTable (d : Dialect) (s : Script) (o : Options) (t : Definition)
    (fields : List Field) (j : Journal (List Call)) :
    ∃ more, ((planTable (s.backend d) o t fields).run j).2.state =
      j.state ++ .tableExists t.table :: more := by
  unfold planTable
  refine calls_of_ask (fun _ => rfl) (fun there => ?_) j
  cases there with
  | false => exact .bind (.note (List.forall_mem_singleton.2 rfl)) fun _ => .settle (.ok _)
  | true =>
      exact .bind (.ask (.columns t.table) rfl fun _ => rfl) fun columns =>
        .bind (.ask (.indexes t.table) rfl fun _ => rfl) fun indexes =>
        .bind (.note (List.forall_mem_singleton.2 rfl)) fun _ =>
        .bind (.note fun _ => origin_liveTableLog) fun _ => .settle _

/-- **A sync whose fields are read asks for its table.** -/
theorem calls_syncTable (d : Dialect) (s : Script) (o : Options) {fields : List Field}
    (hread : t.readFields d = .ok fields) (j : Journal (List Call)) :
    ∃ more, ((syncTable (s.backend d) o t).run j).2.state =
      j.state ++ .tableExists t.table :: more := by
  obtain ⟨asked, hasked⟩ := calls_planTable d s o t fields j
  have hread : t.readFields (s.backend d).dialect = .ok fields := hread
  rw [syncTable, run_bind_ok (run_read hread j), run_bind]
  cases hplan : (planTable (s.backend d) o t fields).run j with
  | mk result planned =>
      rw [hplan] at hasked
      cases result with
      | error e => exact ⟨asked, hasked⟩
      | ok p =>
          -- what is carried out comes after what was asked
          obtain ⟨sent, hsent⟩ := Continues.calls (Corresponds.bind
            (continues_carryOut planned (p.plan.write d o.engine)) fun statements =>
              .settle (.ok (⟨p.plan.write d o.engine, p.counters, statements⟩ : Outcome)))
          refine ⟨asked ++ sent, ?_⟩
          rw [← List.cons_append, ← List.append_assoc, ← hasked]
          exact hsent

end Script

/-- **A sync refuses what the fields have wrong, and nothing else of a definition.**  It ends with
the error of a rule exactly when a field has an error, with the first of them, and then the backend
was asked for nothing.  What else a definition can have wrong is the blank name of its table; where
only that is wrong, every sync asks for this table. -/
theorem rule_error_iff_fieldErrors (d : Dialect) (t : Definition) (h : t.errors d ≠ []) :
    (∀ (σ : Type) (b : Backend σ) (o : Options) (j j' : Journal σ) (e : RuleError),
      b.dialect = d → ((syncTable b o t).run j = (.error (.rule e), j') ↔
        (t.fieldErrors d).head? = some e ∧ j' = j)) ∧
    ((∀ (σ : Type) (b : Backend σ) (o : Options) (j : Journal σ), b.dialect = d →
      ∃ e, (syncTable b o t).run j = (.error (.rule e), j)) ↔ t.fieldErrors d ≠ []) ∧
    (t.fieldErrors d = [] → t.errors d = [⟨t.table, "", .blankTable⟩] ∧
      ∀ (s : Script) (o : Options) (j : Journal (List Call)),
        ∃ more, ((syncTable (s.backend d) o t).run j).2.state =
          j.state ++ .tableExists t.table :: more) := by
  refine ⟨?_, ⟨?_, ?_⟩, ?_⟩
  · rintro σ b o j j' e rfl
    exact run_syncTable_eq_rule_iff
  · intro hrefused hnone
    let empty : Script := { tables := fun _ => none }
    obtain ⟨e, he⟩ := hrefused _ (empty.backend d) {} ⟨[], []⟩ rfl
    have hfirst : (t.fieldErrors d).head? = some e := (run_syncTable_eq_rule_iff.1 he).1
    rw [hnone] at hfirst
    cases hfirst
  · rintro hsome σ b o j rfl
    obtain ⟨e, hfirst⟩ : ∃ e, (t.fieldErrors b.dialect).head? = some e :=
      ⟨_, List.head?_eq_some_head hsome⟩
    exact ⟨e, run_syncTable_eq_rule_iff.2 ⟨hfirst, rfl⟩⟩
  · intro hnone
    refine ⟨?_, fun s o j => ?_⟩
    · rw [Definition.errors_of_fieldErrors hnone] at h ⊢
      split at h
      · exact absurd rfl h
      next hblank => rw [if_neg hblank]
    · obtain ⟨fields, hread⟩ := Definition.exists_readFields_iff.2 hnone
      exact Script.calls_syncTable d s o hread j

/-- A table without columns of its own, whose name is a blank. -/
def blankTable : Definition := ⟨" ", none, []⟩

/-- A table that declares a system column. -/
def keyedUsers : Definition := ⟨"user", none, [("id", "key|number|null|null|null|0|null")]⟩

/-- A system column among the fields is refused; a blank name is asked for. -/
theorem rule_error_of_keyedUsers :
    (keyedUsers.errors .mysql ≠ [] ∧
      ∀ (s : Script) (o : Options) (j : Journal (List Call)),
        (syncTable (s.backend .mysql) o keyedUsers).run j =
          (.error (.rule ⟨"user", "id", .reservedKey⟩), j)) ∧
    (blankTable.errors .mysql ≠ [] ∧
      ∀ (s : Script) (o : Options) (j : Journal (List Call)),
        ∃ more, ((syncTable (s.backend .mysql) o blankTable).run j).2.state =
          j.state ++ .tableExists " " :: more) := by
  have hkeyed : keyedUsers.errors .mysql ≠ [] := by decide +kernel
  have hblank : blankTable.errors .mysql ≠ [] := by decide +kernel
  refine ⟨⟨hkeyed, fun s o j => ?_⟩, hblank, ?_⟩
  · exact ((rule_error_iff_fieldErrors .mysql keyedUsers hkeyed).1 _ (s.backend .mysql) o j j _
      rfl).2 ⟨by decide +kernel, rfl⟩
  · exact ((rule_error_iff_fieldErrors .mysql blankTable hblank).2.2 (by decide +kernel)).2

/-- So not every definition with errors is refused: a blank name is none of the fields'. -/
theorem blankTable_not_refused :
    ¬∀ (d : Dialect) (t : Definition) (σ : Type) (b : Backend σ) (o : Options) (j : Journal σ),
      t.errors d ≠ [] → b.dialect = d → ∃ e, (syncTable b o t).run j = (.error (.rule e), j) := by
  intro hclaim
  let empty : Script := { tables := fun _ => none }
  obtain ⟨e, he⟩ := hclaim .mysql blankTable _ (empty.backend .mysql) {} ⟨[], []⟩
    (by decide +kernel) rfl
  have hcalls : ((syncTable (empty.backend .mysql) {} blankTable).run ⟨[], []⟩).2.state ≠ [] := by
    decide +kernel
  exact hcalls (congrArg (·.2.state) he)

end Conform

/-
**Properties of sessions.**

A sync is put together from calls of a backend, entries of the log and results.  So a property that
is kept when sessions are put together is one of syncs as soon as the parts have it.

Main definitions:

* `Composes` — **that a property is kept when sessions are put together**.

Main results:

* `origin_liveTableLog` — what the comparison of a table logs is about the planning;
* `Composes.planTable`, `Composes.carryOut`, `Composes.syncTable` — **a property of the parts is one
  of the whole**.
-/

import Conform.Sync.Table

set_option relaxedAutoImplicit false
set_option autoImplicit false

namespace Conform

open Session

/-! ### What planning logs -/

section Logs

variable {d : Dialect} {o : Options} {table : String}

theorem origin_gate {key liveType wanted : String} {g : Gate} {e : Entry}
    (h : e ∈ g.entries table key liveType wanted) : e.origin = .planning := by
  cases g with
  | unchanged => cases h
  | refused => cases h
  | strings => rw [List.mem_singleton.1 h]
  | widening => rw [List.mem_singleton.1 h]

theorem origin_shape {key : String} {step : ShapeStep} {e : Entry}
    (h : e ∈ step.warnings d table key) : e.origin = .planning := by
  cases step with
  | keep => cases h
  | alter k => cases h
  | skipShrink now wanted => rw [List.mem_singleton.1 h]
  | skipUnsupported => rw [List.mem_singleton.1 h]

theorem origin_default {key : String} {step : DefaultStep} {e : Entry}
    (h : e ∈ step.warnings table key) : e.origin = .planning := by
  cases step with
  | keep => cases h
  | alter k => cases h
  | restated => cases h
  | unavailable => cases h
  | skipUnsupported => rw [List.mem_singleton.1 h]

theorem origin_review {live : LiveColumn} {c : Column} {r : Review} {e : Entry}
    (h : e ∈ r.log d table live c) : e.origin = .planning := by
  rw [Review.log, List.mem_append] at h
  rcases h with h | h
  · obtain ⟨change, -, rfl⟩ := List.mem_map.1 h
    rfl
  · split at h
    · cases h
    · rw [List.mem_append, List.mem_append] at h
      rcases h with (h | h) | h
      · exact origin_gate h
      · exact origin_shape h
      · exact origin_default h

theorem origin_fieldLog {s : Snapshot} {f : Field} {e : Entry}
    (h : e ∈ fieldLog d o table s f) : e.origin = .planning := by
  simp only [fieldLog] at h
  split at h
  · rw [List.mem_singleton.1 h]
  · exact origin_review h

theorem origin_fieldsLog {s : Snapshot} {fields : List Field} {e : Entry}
    (h : e ∈ fieldsLog d o table s fields) : e.origin = .planning := by
  induction fields with
  | nil => cases h
  | cons f fs ih =>
      rcases List.mem_append.1 h with h | h
      · exact origin_fieldLog h
      · split at h
        · cases h
        · exact ih h

theorem origin_indexLog {s : Snapshot} {columns : List Column} {e : Entry}
    (h : e ∈ indexLog table s columns) : e.origin = .planning := by
  rcases List.mem_append.1 h with h | h
  · obtain ⟨a, -, rfl⟩ := List.mem_map.1 h
    rfl
  · obtain ⟨⟨verb, _, _⟩, -, rfl⟩ := List.mem_map.1 h
    cases verb <;> rfl

/-- **The comparison of a table with its definition logs nothing else.** -/
theorem origin_liveTableLog {s : Snapshot} {fields : List Field} {e : Entry}
    (h : e ∈ liveTableLog d o table fields s) : e.origin = .planning := by
  rcases List.mem_append.1 h with h | h
  · exact origin_fieldsLog h
  · split at h
    · cases h
    · exact origin_indexLog h

/-- What a new table logs is about the planning too. -/
theorem origin_newTableLog {fields : List Field} {e : Entry} (h : e ∈ newTableLog table fields) :
    e.origin = .planning := by
  rw [List.mem_singleton.1 h]

end Logs

/-! ### The reading of the fields -/

section Reading

variable {d : Dialect} {t : Definition} {σ : Type}

theorem run_read {fields : List Field} (h : t.readFields d = .ok fields) (j : Journal σ) :
    (settle ((t.readFields d).mapError .rule) : Session σ _).run j = (.ok fields, j) := by
  rw [run_settle, h]
  rfl

theorem run_read_error {e : RuleError} (h : t.readFields d = .error e) (j : Journal σ) :
    (settle ((t.readFields d).mapError .rule) : Session σ _).run j = (.error (.rule e), j) := by
  rw [run_settle, h]
  rfl

end Reading

/-! ### Properties that are kept -/

variable {σ : Type}

/-- **That a property is kept when sessions are put together**, and that those without effect have
it. -/
structure Composes (P : {α : Type} → Session σ α → Prop) : Prop where
  done : ∀ {α : Type} (a : α), P (pure a : Session σ α)
  bind : ∀ {α β : Type} {step : Session σ α} {next : α → Session σ β},
    P step → (∀ a, P (next a)) → P (step >>= next)

namespace Composes

variable {P : {α : Type} → Session σ α → Prop} (h : Composes P) {b : Backend σ} {o : Options}
  {t : Definition}

include h in
/-- **What the questions, the entries about the planning and the refusals have, planning has.** -/
theorem planTable (hexists : P (ask (b.tableExists t.table)))
    (hcolumns : P (ask (b.columns t.table))) (hindexes : P (ask (b.indexes t.table)))
    (hnote : ∀ entries, (∀ e ∈ entries, e.origin = .planning) → P (note entries))
    (hrefused : ∀ r, P (settle (.error (.typeChange r)) : Session σ Planned))
    (fields : List Field) : P (planTable b o t fields) := by
  unfold Conform.planTable
  refine h.bind hexists fun there => ?_
  cases there with
  | false => exact h.bind (hnote _ fun _ => origin_newTableLog) fun _ => h.done _
  | true =>
      refine h.bind hcolumns fun columns => h.bind hindexes fun indexes =>
        h.bind (hnote _ fun e he => ?_) fun _ =>
        h.bind (hnote _ fun _ => origin_liveTableLog) fun _ => ?_
      · rw [List.mem_singleton.1 he]
      · cases planLiveTable b.dialect o t.table fields ⟨columns, indexes⟩ with
        | error r => exact hrefused r
        | ok p => exact h.done p

include h in
/-- What statements and entries of the log have, lists of statements have. -/
theorem executeAll (hexecute : ∀ sql, P (ask (b.execute sql))) (hnote : ∀ entries, P (note entries))
    (table : String) (sqls : List String) : P (executeAll b table sqls) := by
  induction sqls with
  | nil => exact h.done ()
  | cons sql rest ih => exact h.bind (hnote _) fun _ => h.bind (hexecute sql) fun _ => ih

include h in
/-- **What statements and entries of the log have, plans have that are carried out.** -/
theorem carryOut (hexecute : ∀ sql, P (ask (b.execute sql))) (hnote : ∀ entries, P (note entries))
    (p : WrittenPlan) : P (carryOut b o p) := by
  unfold Conform.carryOut
  split
  · dsimp only
    split
    · exact h.bind (hnote _) fun _ => h.done _
    · exact h.bind (h.executeAll hexecute hnote _ _) fun _ => h.done _
  · exact h.done []

include h in
/-- **What the three parts of a sync have, the sync has.** -/
theorem syncTable (hread : P (settle ((t.readFields b.dialect).mapError .rule)))
    (hplan : ∀ fields, P (Conform.planTable b o t fields))
    (hcarry : ∀ p, P (Conform.carryOut b o p)) : P (syncTable b o t) :=
  h.bind hread fun fields => h.bind (hplan fields) fun _ => h.bind (hcarry _) fun _ => h.done _

end Composes

end Conform

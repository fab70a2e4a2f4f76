/-
**A run that only plans, beside the run that carries out.**

Both runs go over the same definitions from the same database.  The one leaves it as it was; in the
other each table is planned for a database that the earlier definitions have changed, also where
they failed half way.  What is planned for a table is the same all the same, because the earlier
definitions are about other tables.

One table comes into being without a definition of it: that of sequences, which the database makes
for itself with the first table that it numbers.  A definition of that name is planned as a new
table by the one run, and in the other it may find the table there.

Main results:

* `planOn_congr` — planning does not look at whether statements are sent or shown;
* `Sqlite.planOn_syncedOn` — **what is planned for a table after syncs of others**;
* `Sqlite.plan_run_matches` — **a run that only plans, plans what the other does**.
-/

import Conform.Proofs.Plan.Switches
import Conform.Proofs.Sqlite.Frame

set_option relaxedAutoImplicit false
set_option autoImplicit false

namespace Conform

namespace Sqlite

open Database

variable {db : Database} {o : Options} {t : Definition} {fields : List Field} {p : Planned}

/-! ### Runs that only plan -/

/-- **Planning does not look at whether statements are sent or shown.** -/
theorem planOn_congr {o' : Options} (h : o.PlansLike .sqlite o') (db : Database) (t : Definition)
    (fields : List Field) : planOn db o t fields = planOn db o' t fields := by
  simp only [planOn, planLiveTable_congr h, planNewTable_congr h]

/-- A sync that is only planned changes nothing. -/
theorem syncOn_snd_of_planOnly (h : o.planOnly = true) (db : Database) (t : Definition) :
    (syncOn db o t).2 = db := by
  unfold syncOn
  cases t.readFields .sqlite with
  | error e => rfl
  | ok fields =>
      cases hplan : planOn db o t fields with
      | error e => simp only [hplan]
      | ok p => simp only [hplan, h, if_true]

theorem syncedOn_of_planOnly (h : o.planOnly = true) (db : Database) (ts : List Definition) :
    syncedOn db o ts = db := by
  induction ts with
  | nil => rfl
  | cons t ts ih => rw [syncedOn_cons, syncOn_snd_of_planOnly h, ih]

/-- A sync that is only planned succeeds when planning does. -/
theorem syncOn_eq_of_planOnly (h : o.planOnly = true) (hread : t.readFields .sqlite = .ok fields)
    (hplan : planOn db o t fields = .ok p) :
    syncOn db o t = (.ok ⟨p.plan.write .sqlite o.engine, p.counters,
      p.plan.statements.map (·.write .sqlite o.engine)⟩, db) := by
  simp only [syncOn, hread, hplan, h, if_true]

/-! ### Tables after syncs of others -/

theorem hasTable_syncOn {name : String} (h : (syncOn db o t).2.hasTable name = true) :
    db.hasTable name = true ∨ name = t.table ∨ name = sequences.name := by
  rcases syncOn_snd db o t with hsame | ⟨fields, p, -, hplan, hrun⟩
  · rw [hsame] at h
    exact .inl h
  · rw [hrun] at h
    exact hasTable_runCommands (fun c hc => (isOf_of_planOn hplan c hc).1) h

/-- **Syncs make no table of another name**, except that of sequences. -/
theorem hasTable_syncedOn {name : String} {ts : List Definition}
    (hne : ∀ u ∈ ts, u.table ≠ name) (hname : name ≠ sequences.name)
    (h : (syncedOn db o ts).hasTable name = true) : db.hasTable name = true := by
  induction ts generalizing db with
  | nil => exact h
  | cons u ts ih =>
      rw [syncedOn_cons] at h
      rcases hasTable_syncOn (ih (fun v hv => hne v (List.mem_cons_of_mem _ hv)) h) with
        hold | hsame | hsequences
      · exact hold
      · exact absurd hsame.symm (hne u (List.mem_cons_self ..))
      · exact absurd hsequences hname

theorem extends_syncedOn (db : Database) (o : Options) (ts : List Definition) :
    Extends db (syncedOn db o ts) := by
  induction ts generalizing db with
  | nil => exact .refl db
  | cons t ts ih =>
      rw [syncedOn_cons]
      exact (extends_syncOn db o t).trans (ih _)

/-- **What is planned for a table after syncs of others** is what was planned for it before, unless
it is the table of sequences and came into being with them. -/
theorem planOn_syncedOn {ts : List Definition} (hne : ∀ u ∈ ts, u.table ≠ t.table)
    (hsame : (syncedOn db o ts).hasTable t.table = db.hasTable t.table)
    (hplan : planOn (syncedOn db o ts) o t fields = .ok p) : planOn db o t fields = .ok p := by
  rcases planOn_eq_ok_iff.1 hplan with ⟨habsent, rfl⟩ | ⟨hthere, hasked, s, hs, hlive⟩
  · exact planOn_of_absent (hsame.symm.trans habsent)
  · rw [hsame] at hthere
    refine planOn_eq_ok_iff.2 (.inr ⟨hthere, (extends_syncedOn db o ts).hides hasked, s, ?_, hlive⟩)
    rw [← (keeps_syncedOn hne hthere o).reported?]
    exact hs

/-! ### The table of sequences -/

/-- The table of sequences is not made by a definition. -/
theorem createTable_sequences {db' : Database} {columns : List Column} {numbered : Bool}
    {growth : Growth} :
    db.createTable sequences.name columns numbered growth ≠ .ok db' := by
  intro h
  have hreserved := (createTable_eq_ok h).2.1
  revert hreserved
  decide +kernel

/-- The plan for a new table makes it, and that for a table that is there does not. -/
theorem create_of_planOn (h : planOn db o t fields = .ok p) :
    p.plan.create.isSome = !db.hasTable t.table := by
  rcases planOn_eq_ok_iff.1 h with ⟨habsent, rfl⟩ | ⟨hthere, -, s, -, hlive⟩
  · rw [habsent]
    rfl
  · obtain ⟨a, -, rfl⟩ := planLiveTable_eq_ok_iff.1 hlive
    rw [hthere]
    rfl

/-- A plan for a new table that is carried out is not for the table of sequences. -/
theorem ne_sequences_of_planOn (h : planOn db o t fields = .ok p)
    (habsent : db.hasTable t.table = false) {db' : Database}
    (hrun : db.runCommands (commandsOf p.plan.statements) = (.ok (), db')) :
    t.table ≠ sequences.name := by
  rw [planOn_of_absent habsent] at h
  obtain rfl := Except.ok.inj h
  rw [statements_planNewTable_sqlite, commandsOf_cons rfl, runCommands_cons_eq_ok_iff] at hrun
  obtain ⟨mid, hmade, -⟩ := hrun
  intro hname
  rw [hname] at hmade
  exact createTable_sequences hmade

/-- **What was planned for a table before syncs of others**, where what is planned after them is
carried out.  It is the same unless the table of sequences came into being; then the one plan makes
a table and the other does not. -/
theorem planOn_before {ts : List Definition} (hne : ∀ u ∈ ts, u.table ≠ t.table)
    (hplan : planOn (syncedOn db o ts) o t fields = .ok p) {db' : Database}
    (hrun : (syncedOn db o ts).runCommands (commandsOf p.plan.statements) = (.ok (), db')) :
    ∃ q, planOn db o t fields = .ok q ∧
      (q = p ↔ (t.table = sequences.name → db.hasTable sequences.name = true)) ∧
      (q.plan.create.isSome = p.plan.create.isSome → q = p) := by
  by_cases hsame : (syncedOn db o ts).hasTable t.table = db.hasTable t.table
  · refine ⟨p, planOn_syncedOn hne hsame hplan, ⟨fun _ hname => ?_, fun _ => rfl⟩, fun _ => rfl⟩
    rw [← hname, ← hsame, ← Bool.not_eq_false]
    exact fun habsent => ne_sequences_of_planOn hplan habsent hrun hname
  · -- a table that is there all of a sudden is that of sequences
    have hnew : db.hasTable t.table = false := by
      rw [← Bool.not_eq_true]
      exact fun hold => hsame (keeps_syncedOn hne hold o).hasTable
    have hthere : (syncedOn db o ts).hasTable t.table = true := by
      rw [hnew] at hsame
      exact Bool.not_eq_false _ ▸ hsame
    have hname : t.table = sequences.name := by
      by_contra hother
      rw [hasTable_syncedOn hne hother hthere] at hnew
      cases hnew
    have hmakes : (planNewTable .sqlite o t.table fields t.comment).plan.create.isSome =
        !db.hasTable t.table := create_of_planOn (planOn_of_absent hnew)
    have hdiffers : (planNewTable .sqlite o t.table fields t.comment).plan.create.isSome ≠
        p.plan.create.isSome := by
      rw [hmakes, create_of_planOn hplan, hnew, hthere]
      decide
    refine ⟨_, planOn_of_absent hnew, ⟨fun heq => absurd (by rw [heq]) hdiffers, fun himp => ?_⟩,
      fun heq => absurd heq hdiffers⟩
    rw [← hname, hnew] at himp
    exact absurd (himp rfl) Bool.false_ne_true

/-! ### The two runs -/

/-- **A run that only plans, plans what the other does.**  It leaves the database as it was.  Where
a table is named by no earlier definition and its sync succeeds in the run that is carried out, the
plan, the counters and the statements are the same in both runs; only for the table of sequences
that holds exactly when the table was there from the start. -/
theorem plan_run_matches (o : Options) (ts : List Definition) (j : Journal Database) :
    (syncAll backend { o with planOnly := true } ts j).2.state = j.state ∧
    ∀ earlier t later, ts = earlier ++ t :: later → (∀ u ∈ earlier, u.table ≠ t.table) →
      ∀ out j', (syncTable backend { o with planOnly := false } t).run
          (syncAll backend { o with planOnly := false } earlier j).2 = (.ok out, j') →
        ∃ out' j'', (syncTable backend { o with planOnly := true } t).run
            (syncAll backend { o with planOnly := true } earlier j).2 = (.ok out', j'') ∧
          (out' = out ↔ (t.table = sequences.name → j.state.hasTable sequences.name = true)) := by
  have hkept : ∀ us, (syncAll backend { o with planOnly := true } us j).2.state = j.state :=
    fun us => by rw [state_syncAll, syncedOn_of_planOnly rfl]
  refine ⟨hkept ts, fun earlier t later _ hne out j' h => ?_⟩
  have hsync := syncOn_of_run h
  rw [state_syncAll] at hsync
  obtain ⟨fields, p, hread, hplan, hrun, rfl⟩ := (syncOn_eq_ok_iff rfl).1 hsync
  obtain ⟨q, hq, hsame, hcreate⟩ := planOn_before hne hplan hrun
  rw [planOn_congr (o.plansLike_planOnly .sqlite false),
    ← planOn_congr (o.plansLike_planOnly .sqlite true)] at hq
  obtain ⟨log, hshown⟩ := run_syncTable { o with planOnly := true } t
    (syncAll backend { o with planOnly := true } earlier j).2
  rw [hkept, syncOn_eq_of_planOnly rfl hread hq] at hshown
  refine ⟨_, _, hshown, fun heq => hsame.1 (hcreate ?_), fun himp => by rw [hsame.2 himp]⟩
  -- outcomes that are the same have plans that both make a table, or neither does
  have hwritten := congrArg (fun out : Outcome => out.plan.create.isSome) heq
  simpa only [TypedPlan.write, Plan.map, Option.isSome_map] using hwritten

/-- A table of posts whose titles are indexed. -/
def posts : Definition := ⟨"post", none, [("title", "title|string|0|50|null|1|null")]⟩

/-- A definition that has the name of the table of sequences. -/
def sequencesByName : Definition := ⟨"sqlite_sequence", none, []⟩

/-- The sync of a table after that of users in an empty database, when it succeeds. -/
theorem run_syncTable_after_users {t : Definition}
    (h : (syncOn (syncedOn .empty {} [users]) {} t).1.toOption.isSome = true) :
    ∃ out j', (syncTable backend {} t).run (syncAll backend {} [users] ⟨.empty, []⟩).2 =
      (.ok out, j') := by
  rw [← state_syncAll {} [users] ⟨.empty, []⟩] at h
  obtain ⟨out, j', hrun, -⟩ := run_of_isSome h
  exact ⟨out, j', hrun⟩

/-- The table of posts is planned alike after that of users was made and after it was planned. -/
theorem plan_run_matches_posts :
    ∃ out j' j'', (syncTable backend {} posts).run (syncAll backend {} [users] ⟨.empty, []⟩).2 =
        (.ok out, j') ∧
      (syncTable backend { planOnly := true } posts).run
        (syncAll backend { planOnly := true } [users] ⟨.empty, []⟩).2 = (.ok out, j'') := by
  have hother : ∀ u ∈ [users], u.table ≠ posts.table := by decide +kernel
  have hname : posts.table ≠ sequences.name := by decide +kernel
  obtain ⟨out, j', hrun⟩ := run_syncTable_after_users (t := posts) (by decide +kernel)
  obtain ⟨out', j'', hshown, hsame⟩ := (plan_run_matches {} [users, posts] ⟨.empty, []⟩).2
    [users] posts [] rfl hother out j' hrun
  obtain rfl := hsame.2 fun e => absurd e hname
  exact ⟨_, j', j'', hrun, hshown⟩

/-- **The table of sequences is planned apart**: the run that only plans would make it, and in the
other run the database has made it with the table of users. -/
theorem sequences_planned_apart :
    ¬ ∀ (o : Options) (ts : List Definition) (j : Journal Database),
        (syncAll backend { o with planOnly := true } ts j).2.state = j.state ∧
        ∀ earlier t later, ts = earlier ++ t :: later → (∀ u ∈ earlier, u.table ≠ t.table) →
          ∀ out j', (syncTable backend { o with planOnly := false } t).run
              (syncAll backend { o with planOnly := false } earlier j).2 = (.ok out, j') →
            ∃ j'', (syncTable backend { o with planOnly := true } t).run
              (syncAll backend { o with planOnly := true } earlier j).2 = (.ok out, j'') := by
  intro hclaim
  have hother : ∀ u ∈ [users], u.table ≠ sequencesByName.table := by decide +kernel
  obtain ⟨out, j', hrun⟩ := run_syncTable_after_users (t := sequencesByName) (by decide +kernel)
  obtain ⟨j'', hshown⟩ := (hclaim {} [users, sequencesByName] ⟨.empty, []⟩).2
    [users] sequencesByName [] rfl hother out j' hrun
  have hsent := syncOn_of_run hrun
  have hplanned := syncOn_of_run hshown
  rw [state_syncAll] at hsent hplanned
  have hchanged : (syncOn (syncedOn .empty {} [users]) {} sequencesByName).1.toOption.map
        (·.plan.changed) ≠
      (syncOn (syncedOn .empty { planOnly := true } [users]) { planOnly := true }
        sequencesByName).1.toOption.map (·.plan.changed) := by decide +kernel
  rw [hsent, hplanned] at hchanged
  exact hchanged rfl

end Sqlite

end Conform

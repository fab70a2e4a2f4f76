/-
**Each field is planned on its own.**

The contribution of a field to a plan depends on the field and on what is reported of its column and
of the index that is named for it.  So the plan for two lists of fields, one after the other, is the
plan for the first followed by that for the second, and only the indexes of system columns, which
both plans make, are made once.  Fields in another order give the same plan in another order, and
what is reported of other columns and indexes is not looked at.

Main definitions:

* `Planned.Joins` — that a plan is made of two others, whose common index changes it makes once;
* `Planned.Permutes` — that two plans are the same but for the order of their statements;
* `Snapshot.AgreesFor` — that two snapshots report the same of what some keys stand for;
* `PlannedApart` — **that the fields of two lists are planned on their own**.

Main results:

* `draftFields_append` — **fields are drafted on their own**;
* `planLiveTable_append_eq_error_iff` — the refusal of two lists is the first one;
* `joins_planLiveTable` — the plan of two lists is made of theirs;
* `permutes_planLiveTable` — fields in another order;
* `planLiveTable_congr_snapshot` — a plan looks at its columns and their indexes only;
* `planned_apart` — **all of this together**.
-/

import Conform.Proofs.Plan.Indexes
import Conform.Proofs.Plan.Remainder
import Conform.Proofs.Sync.Refusals

set_option relaxedAutoImplicit false
set_option autoImplicit false

namespace Conform

variable {d : Dialect} {o : Options} {table : String} {s : Snapshot} {xs ys fields : List Field}

/-! ### Two lists of fields -/

/-- **Fields are drafted on their own**: those of two lists are drafted as those of the first and
those of the second, or refused as the first list that is. -/
theorem draftFields_append (xs ys : List Field) :
    draftFields d o table s (xs ++ ys) =
      match draftFields d o table s xs, draftFields d o table s ys with
      | .error e, _ => .error e
      | .ok _, .error e => .error e
      | .ok a, .ok b => .ok (a ++ b) := by
  induction xs with
  | nil =>
      simp only [List.nil_append, draftFields]
      cases draftFields d o table s ys <;> simp
  | cons f xs ih =>
      simp only [List.cons_append, draftFields, ih]
      cases draftField d o table s f with
      | error e => rfl
      | ok first =>
          cases draftFields d o table s xs with
          | error e => rfl
          | ok a => cases draftFields d o table s ys <;> simp [Draft.append_assoc]

theorem draftFields_append_eq_ok {c : Draft} :
    draftFields d o table s (xs ++ ys) = .ok c ↔
      ∃ a b, draftFields d o table s xs = .ok a ∧ draftFields d o table s ys = .ok b ∧
        c = a ++ b := by
  rw [draftFields_append]
  cases draftFields d o table s xs <;> cases draftFields d o table s ys <;> simp [eq_comm]

/-- **The refusal of two lists of fields** is that of the first, or that of the second where the
first is not refused. -/
theorem planLiveTable_append_eq_error_iff {e : TypeRefusal} :
    planLiveTable d o table (xs ++ ys) s = .error e ↔
      planLiveTable d o table xs s = .error e ∨
        (∃ p, planLiveTable d o table xs s = .ok p) ∧ planLiveTable d o table ys s = .error e := by
  simp only [planLiveTable, draftFields_append]
  cases draftFields d o table s xs <;> cases draftFields d o table s ys <;> simp

/-- Two lists of fields have a plan exactly when each of them has one. -/
theorem planLiveTable_append_succeeds_iff :
    (∃ p, planLiveTable d o table (xs ++ ys) s = .ok p) ↔
      (∃ p, planLiveTable d o table xs s = .ok p) ∧ ∃ q, planLiveTable d o table ys s = .ok q := by
  simp only [planLiveTable, draftFields_append]
  cases draftFields d o table s xs <;> cases draftFields d o table s ys <;> simp

/-- **That a plan is made of two others**: it has their statements one after the other, and the
index changes that both begin with once. -/
structure Planned.Joins (r : Planned) (shared : List IndexChange) (p q : Planned) : Prop where
  table : r.plan.table = p.plan.table ∧ r.plan.table = q.plan.table
  changed : r.plan.changed = (p.plan.changed || q.plan.changed)
  create : r.plan.create = none ∧ p.plan.create = none ∧ q.plan.create = none
  adds : r.plan.adds = p.plan.adds ++ q.plan.adds
  modifies : r.plan.modifies = p.plan.modifies ++ q.plan.modifies
  defaults : r.plan.defaults = p.plan.defaults ++ q.plan.defaults
  comments : r.plan.comments = p.plan.comments ++ q.plan.comments
  indexes : ∃ first second, p.plan.indexes = shared ++ first ∧ q.plan.indexes = shared ++ second ∧
    r.plan.indexes = shared ++ first ++ second
  /-- The counters are the sums, in which the common index changes are counted once. -/
  counters : r.counters + Counters.ofIndexChanges shared = p.counters + q.counters

/-- The plans of two contributions join. -/
theorem Draft.joins (a b : Draft) (shared first second : List IndexChange) :
    ((a ++ b).planned table (.ofChanges (shared ++ first ++ second))).Joins shared
      (a.planned table (.ofChanges (shared ++ first)))
      (b.planned table (.ofChanges (shared ++ second))) where
  table := ⟨rfl, rfl⟩
  changed := by
    have hgroup : ∀ {α : Type} (as bs : List α),
        (!(as ++ bs).isEmpty) = (!as.isEmpty || !bs.isEmpty) := by
      intro α as bs
      cases as <;> rfl
    rw [Bool.eq_iff_iff]
    simp only [Draft.planned, IndexDraft.ofChanges, Plan.settle, Plan.acts, Draft.append_def,
      hgroup, Bool.or_eq_true]
    grind
  create := ⟨rfl, rfl, rfl⟩
  adds := rfl
  modifies := rfl
  defaults := rfl
  comments := rfl
  indexes := ⟨first, second, rfl, rfl, rfl⟩
  counters := by
    simp only [Draft.planned, IndexDraft.ofChanges, Counters.ofIndexChanges_append,
      Draft.append_def]
    ac_rfl

/-- **The plan of two lists of fields is made of their plans.** -/
theorem joins_planLiveTable {p q r : Planned} (hp : planLiveTable d o table xs s = .ok p)
    (hq : planLiveTable d o table ys s = .ok q)
    (hr : planLiveTable d o table (xs ++ ys) s = .ok r) :
    r.Joins (systemIndexChanges table s) p q := by
  obtain ⟨a, ha, rfl⟩ := planLiveTable_eq_ok_iff.1 hp
  obtain ⟨b, hb, rfl⟩ := planLiveTable_eq_ok_iff.1 hq
  obtain ⟨c, hc, rfl⟩ := planLiveTable_eq_ok_iff.1 hr
  obtain ⟨a', b', ha', hb', rfl⟩ := draftFields_append_eq_ok.1 hc
  rw [ha] at ha'
  rw [hb] at hb'
  cases ha'
  cases hb'
  have hindexes : indexChanges table s ((xs ++ ys).map (·.column d)) =
      systemIndexChanges table s ++ fieldIndexChanges table s (xs.map (·.column d)) ++
        fieldIndexChanges table s (ys.map (·.column d)) := by
    simp only [indexChanges, fieldIndexChanges, List.map_append, List.filterMap_append,
      List.append_assoc]
  rw [hindexes]
  exact Draft.joins a b _ _ _

/-! ### Fields in another order -/

/-- **That two contributions are the same but for the order of their statements.** -/
structure Draft.Permutes (a b : Draft) : Prop where
  adds : a.adds.Perm b.adds
  modifies : a.modifies.Perm b.modifies
  defaults : a.defaults.Perm b.defaults
  comments : a.comments.Perm b.comments
  counters : a.counters = b.counters

namespace Draft.Permutes

theorem refl (a : Draft) : a.Permutes a := ⟨.refl _, .refl _, .refl _, .refl _, rfl⟩

theorem trans {a b c : Draft} (h : a.Permutes b) (h' : b.Permutes c) : a.Permutes c :=
  ⟨h.adds.trans h'.adds, h.modifies.trans h'.modifies, h.defaults.trans h'.defaults,
    h.comments.trans h'.comments, h.counters.trans h'.counters⟩

theorem append_left (c : Draft) {a b : Draft} (h : a.Permutes b) : (c ++ a).Permutes (c ++ b) :=
  ⟨h.adds.append_left _, h.modifies.append_left _, h.defaults.append_left _,
    h.comments.append_left _, congrArg (c.counters + ·) h.counters⟩

/-- The first two contributions are exchanged. -/
theorem swap (a b c : Draft) : (b ++ (a ++ c)).Permutes (a ++ (b ++ c)) where
  adds := List.perm_append_comm_assoc ..
  modifies := List.perm_append_comm_assoc ..
  defaults := List.perm_append_comm_assoc ..
  comments := List.perm_append_comm_assoc ..
  counters := by
    simp only [Draft.append_def]
    ac_rfl

end Draft.Permutes

/-- **Fields in another order are drafted in another order.** -/
theorem permutes_draftFields (hperm : xs.Perm ys) {a : Draft}
    (h : draftFields d o table s xs = .ok a) :
    ∃ b, draftFields d o table s ys = .ok b ∧ a.Permutes b := by
  induction hperm generalizing a with
  | nil => exact ⟨a, h, .refl a⟩
  | cons f _ ih =>
      obtain ⟨first, rest, hfirst, hrest, rfl⟩ := draftFields_cons_eq_ok.1 h
      obtain ⟨rest', hrest', hsame⟩ := ih hrest
      exact ⟨first ++ rest', draftFields_cons_eq_ok.2 ⟨first, rest', hfirst, hrest', rfl⟩,
        hsame.append_left first⟩
  | swap f g fs =>
      obtain ⟨b, _, hb, hothers, rfl⟩ := draftFields_cons_eq_ok.1 h
      obtain ⟨c, rest, hc, hrest, rfl⟩ := draftFields_cons_eq_ok.1 hothers
      have hswapped : draftFields d o table s (f :: g :: fs) = .ok (c ++ (b ++ rest)) :=
        draftFields_cons_eq_ok.2 ⟨c, _, hc, draftFields_cons_eq_ok.2 ⟨b, rest, hb, hrest, rfl⟩, rfl⟩
      exact ⟨_, hswapped, .swap c b rest⟩
  | trans _ _ ih ih' =>
      obtain ⟨b, hb, hsame⟩ := ih h
      obtain ⟨c, hc, hsame'⟩ := ih' hb
      exact ⟨c, hc, hsame.trans hsame'⟩

/-- **That two plans are the same but for the order of their statements.** -/
structure Planned.Permutes (p q : Planned) : Prop where
  table : p.plan.table = q.plan.table
  changed : p.plan.changed = q.plan.changed
  create : p.plan.create = q.plan.create
  adds : p.plan.adds.Perm q.plan.adds
  modifies : p.plan.modifies.Perm q.plan.modifies
  defaults : p.plan.defaults.Perm q.plan.defaults
  indexes : p.plan.indexes.Perm q.plan.indexes
  comments : p.plan.comments.Perm q.plan.comments
  counters : p.counters = q.counters

/-- Contributions in another order, with index changes in another order, give such plans. -/
theorem Draft.Permutes.planned {a b : Draft} {as bs : List IndexChange} (h : a.Permutes b)
    (hperm : as.Perm bs) :
    (a.planned table (.ofChanges as)).Permutes (b.planned table (.ofChanges bs)) where
  table := rfl
  changed := by
    simp only [Draft.planned, IndexDraft.ofChanges, Plan.settle, Plan.acts, h.adds.isEmpty_eq,
      h.modifies.isEmpty_eq, h.defaults.isEmpty_eq, h.comments.isEmpty_eq, hperm.isEmpty_eq]
  create := rfl
  adds := h.adds
  modifies := h.modifies
  defaults := h.defaults
  indexes := hperm
  comments := h.comments
  counters := by
    simp only [Draft.planned, IndexDraft.ofChanges, Counters.ofIndexChanges, h.counters,
      hperm.countP_eq]

/-- **Fields in another order have the same plan in another order.** -/
theorem permutes_planLiveTable (hperm : xs.Perm ys) {p : Planned}
    (h : planLiveTable d o table xs s = .ok p) :
    ∃ q, planLiveTable d o table ys s = .ok q ∧ p.Permutes q := by
  obtain ⟨a, ha, rfl⟩ := planLiveTable_eq_ok_iff.1 h
  obtain ⟨b, hb, hsame⟩ := permutes_draftFields hperm ha
  refine ⟨_, planLiveTable_eq_ok_iff.2 ⟨b, hb, rfl⟩, hsame.planned ?_⟩
  exact ((hperm.map _).filterMap _).append_left _

/-! ### Other columns and other indexes -/

/-- **That two snapshots report the same of what some keys stand for**: of the columns, and of the
indexes that are named for them. -/
structure Snapshot.AgreesFor (table : String) (keys : List String) (s s' : Snapshot) : Prop where
  columns : ∀ key ∈ keys, s'.columns[key]? = s.columns[key]?
  indexes : ∀ key ∈ keys,
    s'.indexes[indexName table key]? = s.indexes[indexName table key]?

/-- The keys that a plan looks at: those of the fields, and those of the system columns that are
indexed. -/
def watchedKeys (fields : List Field) : List String := fields.map (·.key) ++ systemIndexKeys

section Agreement

variable {s' : Snapshot} (h : s.AgreesFor table (watchedKeys fields) s')

theorem key_mem_watchedKeys {f : Field} (hf : f ∈ fields) : f.key ∈ watchedKeys fields :=
  List.mem_append_left _ (List.mem_map_of_mem hf)

theorem draftField_congr_snapshot {f : Field} (h : s'.columns[f.key]? = s.columns[f.key]?) :
    draftField d o table s' f = draftField d o table s f := by
  simp only [draftField, Field.key_column, h]

theorem draftFields_congr_snapshot
    (h : ∀ f ∈ fields, s'.columns[f.key]? = s.columns[f.key]?) :
    draftFields d o table s' fields = draftFields d o table s fields :=
  draftFields_congr_of_forall fun f hf => draftField_congr_snapshot (h f hf)

include h in
theorem systemIndexChanges_congr_snapshot :
    systemIndexChanges table s' = systemIndexChanges table s := by
  have hwatched : ∀ key ∈ systemIndexKeys, key ∈ watchedKeys fields := fun key hkey =>
    List.mem_append_right _ hkey
  refine systemIndexChanges_congr (fun key hkey => ?_) fun key hkey =>
    h.indexes key (hwatched key hkey)
  rw [contains_iff, contains_iff, h.columns key (hwatched key hkey)]

include h in
theorem fieldIndexChanges_congr_snapshot :
    fieldIndexChanges table s' (fields.map (·.column d)) =
      fieldIndexChanges table s (fields.map (·.column d)) := by
  refine List.filterMap_congr fun c hc => ?_
  obtain ⟨f, hf, rfl⟩ := List.mem_map.1 hc
  exact fieldIndexChange?_congr (h.indexes f.key (key_mem_watchedKeys hf))

include h in
/-- **A plan looks at its columns and their indexes only**; so does its refusal. -/
theorem planLiveTable_congr_snapshot :
    planLiveTable d o table fields s' = planLiveTable d o table fields s := by
  have hdraft : draftFields d o table s' fields = draftFields d o table s fields :=
    draftFields_congr_snapshot fun f hf => h.columns f.key (key_mem_watchedKeys hf)
  simp only [planLiveTable, draftIndexes_eq, indexChanges, hdraft,
    systemIndexChanges_congr_snapshot h, fieldIndexChanges_congr_snapshot h]

end Agreement

/-! ### All together -/

/-- **That the fields of two lists are planned on their own**, for a table as it is reported. -/
structure PlannedApart (d : Dialect) (o : Options) (table : String) (s : Snapshot)
    (xs ys : List Field) : Prop where
  /-- Both lists together have a plan exactly when each of them has one. -/
  succeeds : (∃ r, planLiveTable d o table (xs ++ ys) s = .ok r) ↔
    (∃ p, planLiveTable d o table xs s = .ok p) ∧ ∃ q, planLiveTable d o table ys s = .ok q
  /-- Otherwise the refusal is that of the first list, or that of the second where the first has a
  plan. -/
  refuses : ∀ e, planLiveTable d o table (xs ++ ys) s = .error e ↔
    planLiveTable d o table xs s = .error e ∨
      (∃ p, planLiveTable d o table xs s = .ok p) ∧ planLiveTable d o table ys s = .error e
  /-- The plan is made of those of the two lists. -/
  joins : ∀ p q r, planLiveTable d o table xs s = .ok p → planLiveTable d o table ys s = .ok q →
    planLiveTable d o table (xs ++ ys) s = .ok r → r.Joins (systemIndexChanges table s) p q
  /-- Fields in another order have the same plan in another order. -/
  permutes : ∀ fields r, (xs ++ ys).Perm fields → planLiveTable d o table (xs ++ ys) s = .ok r →
    ∃ r', planLiveTable d o table fields s = .ok r' ∧ r.Permutes r'
  /-- What is reported of other columns and of other indexes does not matter. -/
  agrees : ∀ s', s.AgreesFor table (watchedKeys (xs ++ ys)) s' →
    planLiveTable d o table (xs ++ ys) s' = planLiveTable d o table (xs ++ ys) s

/-- **Each field is planned on its own.** -/
theorem planned_apart (d : Dialect) (o : Options) (table : String) (s : Snapshot)
    (xs ys : List Field) : PlannedApart d o table s xs ys where
  succeeds := planLiveTable_append_succeeds_iff
  refuses _ := planLiveTable_append_eq_error_iff
  joins _ _ _ hp hq hr := joins_planLiveTable hp hq hr
  permutes _ _ hperm hr := permutes_planLiveTable hperm hr
  agrees _ hagrees := planLiveTable_congr_snapshot hagrees

/-- Users whose addresses are too short and who have no ages, as MySQL reports them; the time at
which they were made is not indexed. -/
def shortAddresses : Snapshot :=
  let address : LiveColumn := ⟨"varchar", some 10, true, none, none⟩
  let time : LiveColumn := ⟨"datetime", none, false, none, none⟩
  ⟨Std.ExtTreeMap.ofList [("email", address), ("created_at", time)], ∅⟩

/-- The same users with notes of their own, which are indexed. -/
def notedAddresses : Snapshot :=
  let note : LiveColumn := ⟨"varchar", some 40, true, none, none⟩
  ⟨shortAddresses.columns.insert "note" note,
    Std.ExtTreeMap.ofList [("idx_user_note", ["note"])]⟩

theorem plan_shortAddresses (fields : List Field)
    (h : (planLiveTable .mysql {} "user" fields shortAddresses).toOption.isSome = true) :
    ∃ p, planLiveTable .mysql {} "user" fields shortAddresses = .ok p := by
  obtain ⟨p, hp⟩ := Option.isSome_iff_exists.1 h
  exact ⟨p, eq_ok_of_toOption hp⟩

/-- Addresses are made longer and ages are added, each on its own, in either order, and whether or
not there are notes; the index on the time is made once. -/
theorem planned_apart_users :
    ∃ p q r r', planLiveTable .mysql {} "user" [addressField] shortAddresses = .ok p ∧
      planLiveTable .mysql {} "user" [ageField] shortAddresses = .ok q ∧
      planLiveTable .mysql {} "user" [addressField, ageField] shortAddresses = .ok r ∧
      r.Joins [createIndexOf "user" "created_at"] p q ∧
      planLiveTable .mysql {} "user" [ageField, addressField] shortAddresses = .ok r' ∧
      r.Permutes r' ∧
      planLiveTable .mysql {} "user" [addressField, ageField] notedAddresses = .ok r := by
  obtain ⟨p, hp⟩ := plan_shortAddresses [addressField] (by decide +kernel)
  obtain ⟨q, hq⟩ := plan_shortAddresses [ageField] (by decide +kernel)
  have hapart := planned_apart .mysql {} "user" shortAddresses [addressField] [ageField]
  obtain ⟨r, hr⟩ := hapart.succeeds.2 ⟨⟨p, hp⟩, q, hq⟩
  obtain ⟨r', hr', hsame⟩ := hapart.permutes [ageField, addressField] r (.swap ..) hr
  have hindexes : systemIndexChanges "user" shortAddresses =
      [createIndexOf "user" "created_at"] := by decide +kernel
  have hother : shortAddresses.AgreesFor "user" (watchedKeys [addressField, ageField])
      notedAddresses := ⟨by decide +kernel, by decide +kernel⟩
  refine ⟨p, q, r, r', hp, hq, hr, ?_, hr', hsame, (hapart.agrees _ hother).trans hr⟩
  rw [← hindexes]
  exact hapart.joins p q r hp hq hr

end Conform

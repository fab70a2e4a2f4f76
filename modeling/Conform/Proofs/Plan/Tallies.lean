/-
**What a plan counts is what it holds.**

A plan is a record of groups with counters beside it, and its statements are put in order by a
function that looks at one group to decide about the others.  None of the three drifts away from
the others: every entry of a group is sent once, the counters of columns, indexes and tables are
the sizes of groups, and the counters of differences are those that the fields have with the live
columns.

Main definitions:

* `Plan.entries` — the statements of a plan, group by group, and `Plan.size` — their number;
* `fieldChanges` — the differences of a field whose column is there;
* `Planned.Balanced` — **that a plan, its counters and its statements agree**;
* `Planned.Tallies` — **that the counters of a plan are those of its fields**.

Main results:

* `Plan.inOrder_perm` — ordering a plan loses nothing and doubles nothing;
* `tallies_of_draftField`, `tallies_of_draftFields` — what one field counts, and what many do;
* `balanced_plans` — **new and existing tables have balanced plans**.
-/

import Conform.Proofs.Plan.Accounts

set_option relaxedAutoImplicit false
set_option autoImplicit false

namespace Conform

variable {d : Dialect} {o : Options} {table : String} {s : Snapshot}

/-! ### Entries and statements -/

namespace Plan

variable {σ κ : Type}

/-- **The statements of a plan, group by group.** -/
def entries (alter : κ → σ) (index : IndexChange → σ) (p : Plan σ κ) : List σ :=
  p.create.toList ++ p.adds.map alter ++ p.modifies.map alter ++ p.defaults.map alter ++
    p.indexes.map index ++ p.comments

/-- The number of entries of a plan. -/
def size (p : Plan σ κ) : Nat :=
  p.create.toList.length + p.adds.length + p.modifies.length + p.defaults.length +
    p.indexes.length + p.comments.length

theorem length_entries (alter : κ → σ) (index : IndexChange → σ) (p : Plan σ κ) :
    (p.entries alter index).length = p.size := by
  simp only [entries, size, List.length_append, List.length_map]

/-- A plan that makes a table changes no column of it. -/
def IsWhole (p : Plan σ κ) : Prop :=
  p.create ≠ none → p.adds = [] ∧ p.modifies = [] ∧ p.defaults = []

/-- **Ordering a plan loses nothing and doubles nothing**, if it does not both make a table and
change its columns. -/
theorem inOrder_perm (alter : κ → σ) (index : IndexChange → σ) {p : Plan σ κ} (h : p.IsWhole) :
    (p.inOrder alter index).Perm (p.entries alter index) := by
  cases hcreate : p.create with
  | some st =>
      obtain ⟨hadds, hmodifies, hdefaults⟩ := h (by rw [hcreate]; exact Option.some_ne_none st)
      simp only [inOrder, entries, hcreate, hadds, hmodifies, hdefaults, Option.toList_some,
        List.map_nil, List.append_nil, List.singleton_append]
      exact .cons st List.perm_append_comm
  | none =>
      simp only [inOrder, entries, hcreate, Option.toList_none, List.nil_append, List.map_append]
      -- only the first two groups change places
      exact ((List.perm_append_comm.append_right _).append_right _).append_right _

theorem length_inOrder (alter : κ → σ) (index : IndexChange → σ) {p : Plan σ κ}
    (h : p.IsWhole) : (p.inOrder alter index).length = p.size :=
  (inOrder_perm alter index h).length_eq.trans (length_entries alter index p)

theorem isWhole_map {σ' κ' : Type} (f : σ → σ') (g : κ → κ') {p : Plan σ κ} (h : p.IsWhole) :
    (p.map f g).IsWhole := by
  intro hcreate
  obtain ⟨hadds, hmodifies, hdefaults⟩ := h fun hnone => hcreate (by simp [map, hnone])
  simp [map, hadds, hmodifies, hdefaults]

end Plan

/-! ### Differences of fields -/

/-- **The differences of a field whose column is there**; one whose column is missing has none. -/
def fieldChanges (d : Dialect) (o : Options) (s : Snapshot) (f : Field) : List Change :=
  match s.columns[f.key]? with
  | none => []
  | some live => changes (o.statesComments d) live (f.column d)

/-- How many differences in one aspect a list of fields has. -/
def countChanges (d : Dialect) (o : Options) (s : Snapshot) (fields : List Field) (a : Aspect) :
    Nat :=
  (fields.flatMap (fieldChanges d o s)).countP (·.aspect = a)

/-- How many fields have no column. -/
def countMissing (s : Snapshot) (fields : List Field) : Nat :=
  fields.countP fun f => (s.columns[f.key]?).isNone

/-- How many fields differ in type or length. -/
def countReshaped (d : Dialect) (o : Options) (s : Snapshot) (fields : List Field) : Nat :=
  fields.countP fun f => (fieldChanges d o s f).any fun ch =>
    ch.aspect = .type ∨ ch.aspect = .length

/-- The counters of a list of fields. -/
def fieldCounters (d : Dialect) (o : Options) (s : Snapshot) (fields : List Field) : Counters :=
  { types := countChanges d o s fields .type
    lengths := countChanges d o s fields .length
    defaults := countChanges d o s fields .default
    comments := countChanges d o s fields .comment
    columnsAdded := countMissing s fields }

theorem countChanges_append (xs ys : List Field) (a : Aspect) :
    countChanges d o s (xs ++ ys) a = countChanges d o s xs a + countChanges d o s ys a := by
  rw [countChanges, List.flatMap_append, List.countP_append]
  rfl

theorem countChanges_singleton (f : Field) (a : Aspect) :
    countChanges d o s [f] a = (fieldChanges d o s f).countP (·.aspect = a) := by
  rw [countChanges, List.flatMap_singleton]

theorem countReshaped_singleton (f : Field) :
    countReshaped d o s [f] =
      if (fieldChanges d o s f).any (fun ch => ch.aspect = .type ∨ ch.aspect = .length) then 1
      else 0 := by
  rw [countReshaped, List.countP_singleton]

theorem fieldCounters_append (xs ys : List Field) :
    fieldCounters d o s (xs ++ ys) = fieldCounters d o s xs + fieldCounters d o s ys := by
  simp only [fieldCounters, countChanges_append, countMissing, List.countP_append]
  rfl

/-- **Differences are counted by their aspects.** -/
theorem Counters.ofChanges_eq (cs : List Change) :
    Counters.ofChanges cs =
      { types := cs.countP (·.aspect = .type), lengths := cs.countP (·.aspect = .length)
        defaults := cs.countP (·.aspect = .default)
        comments := cs.countP (·.aspect = .comment) } := by
  induction cs with
  | nil => rfl
  | cons ch cs ih =>
      rw [Counters.ofChanges, ih]
      change Counters.add _ _ = _
      cases haspect : ch.aspect <;> simp [haspect, Counters.ofAspect, Counters.add] <;> omega

/-! ### What fields contribute -/

/-- **That a contribution is what some fields count**: its counters are theirs, it adds the columns
that are missing, and it changes no more than what differs. -/
structure Draft.Tallies (d : Dialect) (o : Options) (s : Snapshot) (fields : List Field)
    (a : Draft) : Prop where
  counters : a.counters = fieldCounters d o s fields
  adds : a.adds.length = countMissing s fields
  modifies : a.modifies.length ≤ countReshaped d o s fields
  defaults : a.defaults.length ≤ countChanges d o s fields .default
  comments : o.statesComments d = false → a.comments = []

theorem Draft.Tallies.append {xs ys : List Field} {a b : Draft} (ha : a.Tallies d o s xs)
    (hb : b.Tallies d o s ys) : (a ++ b).Tallies d o s (xs ++ ys) where
  counters := by
    rw [fieldCounters_append, ← ha.counters, ← hb.counters]
    rfl
  adds := by
    rw [Draft.append_def, List.length_append, ha.adds, hb.adds, countMissing, countMissing,
      countMissing, List.countP_append]
  modifies := by
    rw [Draft.append_def, List.length_append, countReshaped, List.countP_append]
    exact Nat.add_le_add ha.modifies hb.modifies
  defaults := by
    rw [Draft.append_def, List.length_append, countChanges_append]
    exact Nat.add_le_add ha.defaults hb.defaults
  comments := fun hsilent => by
    rw [Draft.append_def, ha.comments hsilent, hb.comments hsilent]
    rfl

theorem mem_changes_of_changeIn {compared : Bool} {live : LiveColumn} {c : Column} {a : Aspect}
    {ch : Change} (h : changeIn compared live c a = some ch) : ch ∈ changes compared live c :=
  mem_changes_iff.2 (by rwa [aspect_of_changeIn h])

/-- A column is altered at most once, and only where its type or its length differs. -/
theorem length_clauses_shape_le (allowShrink compared : Bool) (live : LiveColumn) (c : Column) :
    (shapeStep d allowShrink live c).clauses.length ≤
      if (changes compared live c).any (fun ch => ch.aspect = .type ∨ ch.aspect = .length) then 1
      else 0 := by
  cases hshape : shapeStep d allowShrink live c with
  | keep | skipShrink _ _ | skipUnsupported => exact Nat.zero_le _
  | alter k =>
      have hdiffers : ∃ a ch, (a = .type ∨ a = .length) ∧ changeIn compared live c a = some ch := by
        rcases (shapeStep_eq_alter_iff.1 hshape).2.1 with h | h
        · obtain ⟨ch, hch⟩ := Option.ne_none_iff_exists'.1 h
          exact ⟨.type, ch, .inl rfl, hch⟩
        · obtain ⟨ch, hch⟩ := Option.ne_none_iff_exists'.1 h
          exact ⟨.length, ch, .inr rfl, hch⟩
      obtain ⟨a, ch, ha, hch⟩ := hdiffers
      have hany : (changes compared live c).any
          (fun ch => ch.aspect = .type ∨ ch.aspect = .length) = true :=
        List.any_eq_true.2 ⟨ch, mem_changes_of_changeIn hch, by
          rw [aspect_of_changeIn hch]
          exact decide_eq_true ha⟩
      rw [if_pos hany]
      exact Nat.le_refl 1

/-- A default is altered at most once, and only where it differs. -/
theorem length_clauses_default_le (shape : ShapeStep) (compared : Bool) (live : LiveColumn)
    (c : Column) :
    (defaultStep d shape live c).clauses.length ≤
      (changes compared live c).countP (·.aspect = .default) := by
  cases hstep : defaultStep d shape live c with
  | keep | restated | unavailable | skipUnsupported => exact Nat.zero_le _
  | alter k =>
      have hdiffers : defaultChange? live c ≠ none := by
        intro hnone
        rw [defaultStep, hnone] at hstep
        cases hstep
      obtain ⟨ch, hch⟩ := Option.ne_none_iff_exists'.1 hdiffers
      have hmem : ch ∈ changes compared live c :=
        mem_changes_of_changeIn (a := .default) hch
      exact List.countP_pos_iff.2 ⟨ch, hmem, decide_eq_true (aspect_of_defaultChange? hch)⟩

theorem fieldChanges_of_none {f : Field} (h : s.columns[f.key]? = none) :
    fieldChanges d o s f = [] := by
  rw [fieldChanges, h]

theorem fieldChanges_of_some {f : Field} {live : LiveColumn} (h : s.columns[f.key]? = some live) :
    fieldChanges d o s f = changes (o.statesComments d) live (f.column d) := by
  rw [fieldChanges, h]

/-- **What one field counts.** -/
theorem tallies_of_draftField {f : Field} {a : Draft} (h : draftField d o table s f = .ok a) :
    a.Tallies d o s [f] := by
  cases hlive : s.columns[f.key]? with
  | none =>
      rw [draftField_of_none hlive] at h
      cases h
      have hchanges := fieldChanges_of_none (d := d) (o := o) hlive
      exact
        { counters := by simp [fieldCounters, countChanges_singleton, countMissing, hchanges, hlive,
            draftMissing]
          adds := by simp [countMissing, hlive, draftMissing]
          modifies := Nat.zero_le _
          defaults := Nat.zero_le _
          comments := fun hsilent => by simp [draftMissing, hsilent] }
  | some live =>
      rw [draftField_of_some hlive] at h
      split at h
      · cases h
      · cases h
        have hchanges := fieldChanges_of_some (d := d) (o := o) hlive
        rw [draft_review]
        refine ⟨?_, ?_, ?_, ?_, fun hsilent => ?_⟩
        · simp [fieldCounters, countChanges_singleton, countMissing, hchanges, hlive,
            Counters.ofChanges_eq]
        · simp [countMissing, hlive]
        · simpa only [countReshaped_singleton, hchanges] using
            length_clauses_shape_le o.allowShrink (o.statesComments d) live (f.column d)
        · simpa only [countChanges_singleton, hchanges] using
            length_clauses_default_le _ (o.statesComments d) live (f.column d)
        · simp [commentChange?, hsilent]

/-- **What many fields count.** -/
theorem tallies_of_draftFields {fields : List Field} {a : Draft}
    (h : draftFields d o table s fields = .ok a) : a.Tallies d o s fields := by
  induction fields generalizing a with
  | nil =>
      cases h
      exact ⟨rfl, rfl, Nat.le_refl _, Nat.le_refl _, fun _ => rfl⟩
  | cons f fs ih =>
      obtain ⟨b, c, hfirst, hrest, rfl⟩ := draftFields_cons_eq_ok.1 h
      exact (tallies_of_draftField hfirst).append (ih hrest)

/-! ### Plans -/

theorem Options.statesComments_eq_true_iff :
    o.statesComments d = true ↔ d = .postgres ∧ o.comments = true := by
  cases d <;> simp [Options.statesComments, Dialect.hasCommentStatements]

/-- **That a plan, its counters and its statements agree.** -/
structure Planned.Balanced (d : Dialect) (o : Options) (p : Planned) : Prop where
  /-- The texts that are sent are the entries of the plan, each of them once. -/
  statements : (WrittenPlan.statements d o.engine (p.plan.write d o.engine)).Perm
    ((p.plan.write d o.engine).entries (alterText d p.plan.table) fun a =>
      (a.statement p.plan.table).write d o.engine)
  length : (WrittenPlan.statements d o.engine (p.plan.write d o.engine)).length = p.plan.size
  changed : p.plan.changed = true ↔ WrittenPlan.statements d o.engine (p.plan.write d o.engine) ≠ []
  columnsAdded : p.counters.columnsAdded = p.plan.adds.length
  indexesCreated : p.counters.indexesCreated = p.plan.indexes.countP (·.verb = .create)
  indexesDropped : p.counters.indexesDropped = p.plan.indexes.countP (·.verb = .drop)
  tablesCreated : p.counters.tablesCreated = if p.plan.create = none then 0 else 1
  /-- Only PostgreSQL has statements for comments, and they can be switched off. -/
  comments : p.plan.comments ≠ [] → d = .postgres ∧ o.comments = true

/-- **That the counters of a plan for a table that is there are those of its fields**, and that its
clauses are no more than the differences that they are for. -/
structure Planned.Tallies (d : Dialect) (o : Options) (s : Snapshot) (fields : List Field)
    (p : Planned) : Prop where
  create : p.plan.create = none
  columnsAdded : p.counters.columnsAdded = countMissing s fields
  types : p.counters.types = countChanges d o s fields .type
  lengths : p.counters.lengths = countChanges d o s fields .length
  defaults : p.counters.defaults = countChanges d o s fields .default
  comments : p.counters.comments = countChanges d o s fields .comment
  modifies : p.plan.modifies.length ≤ countReshaped d o s fields
  redefaults : p.plan.defaults.length ≤ p.counters.defaults

theorem Planned.statements_perm (d : Dialect) (o : Options) {p : Planned} (h : p.plan.IsWhole) :
    (WrittenPlan.statements d o.engine (p.plan.write d o.engine)).Perm
      ((p.plan.write d o.engine).entries (alterText d p.plan.table) fun a =>
        (a.statement p.plan.table).write d o.engine) :=
  Plan.inOrder_perm _ _ (Plan.isWhole_map _ _ h)

theorem Planned.length_statements (d : Dialect) (o : Options) {p : Planned} (h : p.plan.IsWhole) :
    (WrittenPlan.statements d o.engine (p.plan.write d o.engine)).length = p.plan.size := by
  rw [TypedPlan.statements_write, List.length_map]
  exact Plan.length_inOrder _ _ h

/-- A settled plan is carried out exactly when it has texts to send. -/
theorem Planned.changed_iff (d : Dialect) (o : Options) {p : Planned}
    (h : p.plan.changed = p.plan.acts) :
    p.plan.changed = true ↔
      WrittenPlan.statements d o.engine (p.plan.write d o.engine) ≠ [] := by
  rw [h, TypedPlan.statements_write, ne_eq, List.map_eq_nil_iff]
  exact Plan.acts_iff _ _ p.plan

/-- Where comments are not stated there are none, so that those of a plan are of PostgreSQL. -/
theorem Planned.dialect_of_comments {p : Planned}
    (h : o.statesComments d = false → p.plan.comments = []) (hcomments : p.plan.comments ≠ []) :
    d = .postgres ∧ o.comments = true :=
  Options.statesComments_eq_true_iff.1 (Bool.of_not_eq_false fun hsilent => hcomments (h hsilent))

/-- All index changes of a new table make an index. -/
theorem countP_createIndexes (table : String) (keys : List String) (verb : IndexVerb) :
    (keys.map (createIndexOf table)).countP (·.verb = verb) =
      if verb = .create then keys.length else 0 := by
  rw [List.countP_map]
  cases verb <;> simp [Function.comp_def, createIndexOf]

/-- A new table is counted, and each of its indexes, and no difference. -/
theorem counters_planNewTable (d : Dialect) (o : Options) (table : String) (fields : List Field)
    (comment : Option String) :
    (planNewTable d o table fields comment).counters =
      { indexesCreated := (planNewTable d o table fields comment).plan.indexes.length
        tablesCreated := 1 } := by
  rw [planNewTable_indexes, List.length_map, planNewTable_eq]

/-- **The plan that makes a table is balanced.** -/
theorem balanced_planNewTable (fields : List Field) (comment : Option String) :
    (planNewTable d o table fields comment).Balanced d o := by
  have hwhole : (planNewTable d o table fields comment).plan.IsWhole := fun _ => ⟨rfl, rfl, rfl⟩
  exact
    { statements := Planned.statements_perm d o hwhole
      length := Planned.length_statements d o hwhole
      changed := Planned.changed_iff d o rfl
      columnsAdded := by
        rw [planNewTable_eq]
        rfl
      indexesCreated := by
        rw [planNewTable_eq]
        exact (countP_createIndexes table _ .create).symm
      indexesDropped := by
        rw [planNewTable_eq]
        exact (countP_createIndexes table _ .drop).symm
      tablesCreated := by
        rw [planNewTable_eq]
        rfl
      comments := Planned.dialect_of_comments fun hsilent => by
        simp [planNewTable, Plan.settle, hsilent] }

section LiveTable

variable {fields : List Field}

theorem Draft.Tallies.counters_planned {a : Draft} (h : a.Tallies d o s fields)
    (actions : List IndexChange) :
    (a.planned table (.ofChanges actions)).counters =
      fieldCounters d o s fields + Counters.ofIndexChanges actions := by
  rw [← h.counters]
  rfl

variable {p : Planned} (h : planLiveTable d o table fields s = .ok p)

include h in
/-- **The counters of a plan for a table that is there are those of its fields.** -/
theorem tallies_of_planLiveTable : p.Tallies d o s fields := by
  obtain ⟨a, hdraft, rfl⟩ := planLiveTable_eq_ok_iff.1 h
  have ha := tallies_of_draftFields hdraft
  refine ⟨rfl, ?_, ?_, ?_, ?_, ?_, ha.modifies, ?_⟩ <;> rw [ha.counters_planned]
  · rfl
  · rfl
  · rfl
  · rfl
  · rfl
  · exact ha.defaults

include h in
/-- **The plan for a table that is there is balanced.** -/
theorem balanced_planLiveTable : p.Balanced d o := by
  obtain ⟨a, hdraft, rfl⟩ := planLiveTable_eq_ok_iff.1 h
  have ha := tallies_of_draftFields hdraft
  have hwhole : ∀ indexes, (a.planned table indexes).plan.IsWhole :=
    fun _ hcreate => absurd rfl hcreate
  exact
    { statements := Planned.statements_perm d o (hwhole _)
      length := Planned.length_statements d o (hwhole _)
      changed := Planned.changed_iff d o rfl
      columnsAdded := by
        rw [ha.counters_planned]
        exact ha.adds.symm
      indexesCreated := by
        rw [ha.counters_planned]
        exact Nat.zero_add _
      indexesDropped := by
        rw [ha.counters_planned]
        exact Nat.zero_add _
      tablesCreated := by
        rw [ha.counters_planned]
        rfl
      comments := Planned.dialect_of_comments ha.comments }

end LiveTable

/-- **Counters, plan and statements agree.**  The plan for a new table is balanced, it makes the
table, and it counts the table and its indexes and no difference.  The plan for a table that is
there, where there is one, is balanced too, and its counters are those of the fields: the columns
that are missing, and the differences in each aspect of those that are there. -/
theorem balanced_plans (d : Dialect) (o : Options) (table : String) (fields : List Field)
    (comment : Option String) (s : Snapshot) :
    ((planNewTable d o table fields comment).Balanced d o ∧
      (planNewTable d o table fields comment).plan.create ≠ none ∧
      (planNewTable d o table fields comment).counters =
        { indexesCreated := (planNewTable d o table fields comment).plan.indexes.length
          tablesCreated := 1 }) ∧
    ∀ p, planLiveTable d o table fields s = .ok p → p.Balanced d o ∧ p.Tallies d o s fields :=
  ⟨⟨balanced_planNewTable fields comment, Option.some_ne_none _, counters_planNewTable ..⟩,
    fun _ hplan => ⟨balanced_planLiveTable hplan, tallies_of_planLiveTable hplan⟩⟩

/-- Of the two differences of the longer addresses one is carried out, by a single statement; both
are counted. -/
theorem balanced_plans_lengthyUsers :
    planLiveTable .mysql {} "user" userFields lengthyUsers = .ok undefaultUsers ∧
      (WrittenPlan.statements .mysql (Options.engine {})
        (undefaultUsers.plan.write .mysql (Options.engine {}))).length = 1 ∧
      countChanges .mysql {} lengthyUsers userFields .length = 1 ∧
      countChanges .mysql {} lengthyUsers userFields .default = 1 ∧
      undefaultUsers.plan.modifies.length < countReshaped .mysql {} lengthyUsers userFields := by
  have hplan : planLiveTable .mysql {} "user" userFields lengthyUsers = .ok undefaultUsers :=
    eq_ok_of_toOption (by decide +kernel)
  obtain ⟨hbalanced, htallies⟩ :=
    (balanced_plans .mysql {} "user" userFields none lengthyUsers).2 undefaultUsers hplan
  exact ⟨hplan, hbalanced.length, htallies.lengths.symm, htallies.defaults.symm,
    by decide +kernel⟩

end Conform

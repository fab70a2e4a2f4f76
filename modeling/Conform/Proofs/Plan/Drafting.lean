/-
**What each field contributes to a plan.**

The contribution of a list of fields is the contributions of the fields one after the other, and
the statements about one column are those of its field alone.  A plan for an existing table changes
nothing when every column is settled and no index is missing.

Main definitions:

* `Statement.column?` — the column that a statement changes;
* `Draft.statements` — the statements of a contribution;
* `indexChanges` — the index changes of a plan, and `Counters.ofIndexChanges` — how many they are;
* `IsSettled` — a live column about which nothing is done;
* `Planned.IsIdle` — a plan that does nothing and counts no table, column or index.

Main results:

* `draftFields_congr_of_forall` — fields that are drafted alike, one by one, are so together;
* `draftField_of_draftFields` — no field of a plan is refused;
* `mem_group_of_field`, `filter_statements_of_mem` — **the statements about a column are those of
  its field**;
* `draftIndexes_eq` — **indexes contribute their changes, and each is counted once**;
* `planLiveTable_eq_ok_iff` — a plan is a contribution of the fields with the index changes;
* `planLiveTable_of_settled` — **where all is settled nothing changes**.
-/

import Conform.Plan.LiveTable
import Conform.Proofs.Definition.Fields

set_option relaxedAutoImplicit false
set_option autoImplicit false

namespace Conform

variable {d : Dialect} {o : Options} {table : String} {s : Snapshot}

/-! ### The statements of a contribution -/

/-- The column that a statement changes, if it changes one that can be there. -/
def Statement.column? : Statement → Option String
  | alterTable _ clause => some clause.key
  | commentColumn _ key _ => some key
  | createTable _ _ _ | createIndex _ _ _ | dropIndex _ _ | commentTable _ _ => none

/-- Whether a statement changes a given column. -/
def Statement.concerns (key : String) (st : Statement) : Bool := st.column? == some key

/-- **The statements of a contribution**, in the order in which they are sent. -/
def Draft.statements (table : String) (a : Draft) : List Statement :=
  (a.modifies ++ a.adds ++ a.defaults).map (.alterTable table) ++ a.comments

theorem Draft.mem_statements_append {a b : Draft} {st : Statement} :
    st ∈ (a ++ b).statements table ↔ st ∈ a.statements table ∨ st ∈ b.statements table := by
  simp only [Draft.statements, Draft.append_def, List.map_append, List.mem_append]
  grind

theorem Draft.mem_statements_iff {a : Draft} {st : Statement} :
    st ∈ a.statements table ↔
      (∃ k, (k ∈ a.modifies ∨ k ∈ a.adds ∨ k ∈ a.defaults) ∧ .alterTable table k = st) ∨
        st ∈ a.comments := by
  simp only [Draft.statements, List.mem_append, List.mem_map, or_assoc]

/-- A contribution that leaves a column alone has no statement about it in any group. -/
theorem Draft.filter_groups_eq_nil {a : Draft} {key : String}
    (h : ∀ st ∈ a.statements table, st.concerns key = false) :
    (a.modifies.map (Statement.alterTable table)).filter (·.concerns key) = [] ∧
      (a.adds.map (Statement.alterTable table)).filter (·.concerns key) = [] ∧
      (a.defaults.map (Statement.alterTable table)).filter (·.concerns key) = [] ∧
      a.comments.filter (·.concerns key) = [] := by
  have hnil : (a.statements table).filter (·.concerns key) = [] := by
    refine List.filter_eq_nil_iff.2 fun st hst => ?_
    rw [h st hst]
    exact Bool.false_ne_true
  rw [Draft.statements, List.map_append, List.map_append, List.filter_append, List.filter_append,
    List.filter_append] at hnil
  obtain ⟨hclauses, hcomments⟩ := List.append_eq_nil_iff.1 hnil
  obtain ⟨hshapes, hdefaults⟩ := List.append_eq_nil_iff.1 hclauses
  obtain ⟨hmodifies, hadds⟩ := List.append_eq_nil_iff.1 hshapes
  exact ⟨hmodifies, hadds, hdefaults, hcomments⟩

theorem Draft.filter_statements_append_left {a b : Draft} {key : String}
    (h : ∀ st ∈ b.statements table, st.concerns key = false) :
    ((a ++ b).statements table).filter (·.concerns key) =
      (a.statements table).filter (·.concerns key) := by
  obtain ⟨hmodifies, hadds, hdefaults, hcomments⟩ := Draft.filter_groups_eq_nil h
  simp only [Draft.statements, Draft.append_def, List.map_append, List.filter_append, hmodifies,
    hadds, hdefaults, hcomments, List.append_nil]

theorem Draft.filter_statements_append_right {a b : Draft} {key : String}
    (h : ∀ st ∈ a.statements table, st.concerns key = false) :
    ((a ++ b).statements table).filter (·.concerns key) =
      (b.statements table).filter (·.concerns key) := by
  obtain ⟨hmodifies, hadds, hdefaults, hcomments⟩ := Draft.filter_groups_eq_nil h
  simp only [Draft.statements, Draft.append_def, List.map_append, List.filter_append, hmodifies,
    hadds, hdefaults, hcomments, List.nil_append]

/-! ### The contribution of one field -/

theorem Clause.key_of_retype? {c : Column} {k : Clause} (h : Clause.retype? d c = some k) :
    k.key = c.key := by
  cases d <;> simp [Clause.retype?] at h <;> subst h <;> rfl

theorem Clause.eq_of_redefault? {c : Column} {type : String} {k : Clause}
    (h : Clause.redefault? d c type = some k) : k = .alterDefault c.key c.default := by
  unfold Clause.redefault? at h
  split at h
  · split at h
    · cases h
    · exact (Option.some.inj h).symm
  · exact (Option.some.inj h).symm
  · cases h

/-- A change of type or length is made by the clause of the dialect. -/
theorem retype?_of_shapeStep {allowShrink : Bool} {live : LiveColumn} {c : Column} {k : Clause}
    (h : shapeStep d allowShrink live c = .alter k) : Clause.retype? d c = some k := by
  unfold shapeStep at h
  cases hretype : Clause.retype? d c with
  | none =>
      simp only [hretype] at h
      split at h
      · cases h
      · split at h
        · split at h <;> cases h
        · cases h
  | some clause =>
      simp only [hretype] at h
      split at h
      · cases h
      · split at h
        · split at h
          · cases h; rfl
          · cases h
        · cases h; rfl

/-- A change of default is made by the clause of the dialect. -/
theorem redefault?_of_defaultStep {shape : ShapeStep} {live : LiveColumn} {c : Column} {k : Clause}
    (h : defaultStep d shape live c = .alter k) : Clause.redefault? d c live.type = some k := by
  unfold defaultStep at h
  split at h
  · cases h
  · split at h
    · cases h
    · split at h
      next clause hclause =>
        cases h
        exact hclause
      · split at h <;> cases h

theorem wanted_of_commentChange? {compared : Bool} {live : LiveColumn} {c : Column} {ch : Change}
    (h : commentChange? compared live c = some ch) : ch.wanted = c.label := by
  unfold commentChange? at h
  split at h
  · cases h
  · cases h
    rfl

section Review

variable (d o) (live : LiveColumn) (c : Column)

theorem gate_review : (review d o live c).gate = gate d live.type c.type.storage := by
  simp only [review]

theorem shape_review : (review d o live c).shape = shapeStep d o.allowShrink live c := by
  simp only [review]

theorem default_review : (review d o live c).default =
    defaultStep d (shapeStep d o.allowShrink live c) live c := by
  simp only [review]

theorem comment_review : (review d o live c).comment =
    (commentChange? (o.statesComments d) live c).map (·.wanted) := by
  simp only [review]

theorem draft_review (table key : String) : (review d o live c).draft table key =
    ⟨[], (shapeStep d o.allowShrink live c).clauses,
      (defaultStep d (shapeStep d o.allowShrink live c) live c).clauses,
      (((commentChange? (o.statesComments d) live c).map (·.wanted)).map
        (Statement.commentColumn table key)).toList,
      Counters.ofChanges (changes (o.statesComments d) live c)⟩ := by
  simp only [Review.draft, review]

end Review

theorem mem_clauses_shape {shape : ShapeStep} {k : Clause} :
    k ∈ shape.clauses ↔ shape = .alter k := by
  cases shape <;> simp [ShapeStep.clauses, eq_comm]

theorem mem_clauses_default {step : DefaultStep} {k : Clause} :
    k ∈ step.clauses ↔ step = .alter k := by
  cases step <;> simp [DefaultStep.clauses, eq_comm]

theorem concerns_review {live : LiveColumn} {c : Column} {st : Statement}
    (h : st ∈ ((review d o live c).draft table c.key).statements table) :
    st.column? = some c.key := by
  simp only [Draft.statements, Review.draft, shape_review, default_review, List.append_nil,
    List.mem_append, List.mem_map, Option.mem_toList, Option.map_eq_some_iff] at h
  rcases h with ⟨k, hk | hk, rfl⟩ | ⟨text, _, rfl⟩
  · have hretype := retype?_of_shapeStep (mem_clauses_shape.1 hk)
    exact congrArg some (Clause.key_of_retype? hretype)
  · rw [Clause.eq_of_redefault? (redefault?_of_defaultStep (mem_clauses_default.1 hk))]
    rfl
  · rfl

theorem concerns_missing {c : Column} {st : Statement}
    (h : st ∈ (draftMissing d o table c).statements table) : st.column? = some c.key := by
  simp only [Draft.statements, draftMissing, labelStatement?] at h
  simp only [List.nil_append, List.append_nil, List.map_cons, List.map_nil, List.cons_append,
    List.mem_cons] at h
  rcases h with rfl | h
  · rfl
  · split at h
    · split at h
      · simp at h
      · obtain rfl : st = .commentColumn table c.key c.label := by simpa using h
        rfl
    · simp at h

theorem draftField_of_none {f : Field} (h : s.columns[f.key]? = none) :
    draftField d o table s f = .ok (draftMissing d o table (f.column d)) := by
  simp only [draftField, Field.key_column, h]

theorem draftField_of_some {f : Field} {live : LiveColumn} (h : s.columns[f.key]? = some live) :
    draftField d o table s f =
      if gate d live.type (f.column d).type.storage = .refused then
        .error ⟨table, f.key, live.type, (f.column d).type.storage.keyword⟩
      else .ok ((review d o live (f.column d)).draft table f.key) := by
  simp only [draftField, Field.key_column, h, gate_review]

/-- **The statements of a field are about its column.** -/
theorem column?_of_draftField {f : Field} {a : Draft} (h : draftField d o table s f = .ok a)
    {st : Statement} (hst : st ∈ a.statements table) : st.column? = some f.key := by
  cases hlive : s.columns[f.key]? with
  | none =>
      rw [draftField_of_none hlive] at h
      cases h
      exact concerns_missing hst
  | some live =>
      rw [draftField_of_some hlive] at h
      split at h
      · cases h
      · cases h
        exact concerns_review (c := f.column d) hst

/-- **The clauses of a field** add its column where it is missing; where it is there, they give it
its type or its default. -/
theorem clause_of_draftField {f : Field} {a : Draft} (h : draftField d o table s f = .ok a)
    {k : Clause} (hk : k ∈ a.modifies ++ a.adds ++ a.defaults) :
    (s.columns[f.key]? = none ∧ k = .addColumn (f.column d)) ∨
      (s.columns[f.key]? ≠ none ∧
        (Clause.retype? d (f.column d) = some k ∨ k = .alterDefault f.key f.rule.default)) := by
  cases hlive : s.columns[f.key]? with
  | none =>
      rw [draftField_of_none hlive] at h
      cases h
      exact .inl ⟨rfl, by simpa [draftMissing] using hk⟩
  | some live =>
      rw [draftField_of_some hlive] at h
      split at h
      · cases h
      · cases h
        simp only [draft_review, List.append_nil, List.mem_append, mem_clauses_shape,
          mem_clauses_default] at hk
        refine .inr ⟨Option.some_ne_none _, hk.imp retype?_of_shapeStep fun hdefault => ?_⟩
        exact Clause.eq_of_redefault? (redefault?_of_defaultStep hdefault)

/-- **The comments of a field** give its column its label. -/
theorem comment_of_draftField {f : Field} {a : Draft} (h : draftField d o table s f = .ok a)
    {st : Statement} (hst : st ∈ a.comments) :
    st = .commentColumn table f.key f.rule.label := by
  cases hlive : s.columns[f.key]? with
  | none =>
      rw [draftField_of_none hlive] at h
      cases h
      unfold draftMissing labelStatement? at hst
      split at hst
      · split at hst
        · cases hst
        · exact List.mem_singleton.1 hst
      · cases hst
  | some live =>
      rw [draftField_of_some hlive] at h
      split at h
      · cases h
      · cases h
        simp only [draft_review, Option.mem_toList, Option.map_eq_some_iff] at hst
        obtain ⟨text, ⟨ch, hch, rfl⟩, rfl⟩ := hst
        rw [wanted_of_commentChange? hch]
        rfl

/-! ### The contributions of many fields -/

theorem draftFields_cons_eq_ok {f : Field} {fs : List Field} {a : Draft} :
    draftFields d o table s (f :: fs) = .ok a ↔
      ∃ b c, draftField d o table s f = .ok b ∧ draftFields d o table s fs = .ok c ∧
        a = b ++ c := by
  cases hf : draftField d o table s f with
  | error e => simp [draftFields, hf]
  | ok b =>
      cases hfs : draftFields d o table s fs with
      | error e => simp [draftFields, hf, hfs]
      | ok c => simp [draftFields, hf, hfs, eq_comm]

/-- **Where each field is drafted alike, all of them are**, or are refused alike. -/
theorem draftFields_congr_of_forall {d' : Dialect} {o' : Options} {table' : String} {s' : Snapshot}
    {fields : List Field}
    (h : ∀ f ∈ fields, draftField d o table s f = draftField d' o' table' s' f) :
    draftFields d o table s fields = draftFields d' o' table' s' fields := by
  induction fields with
  | nil => rfl
  | cons f fs ih =>
      have hfirst := h f (List.mem_cons_self ..)
      have hrest := ih fun g hg => h g (List.mem_cons_of_mem _ hg)
      rw [draftFields, draftFields, hfirst, hrest]

/-- No field of a plan is refused. -/
theorem draftField_of_draftFields {fields : List Field} {a : Draft}
    (h : draftFields d o table s fields = .ok a) {f : Field} (hf : f ∈ fields) :
    ∃ b, draftField d o table s f = .ok b := by
  induction fields generalizing a with
  | nil => cases hf
  | cons first rest ih =>
      obtain ⟨b, c, hfirst, hrest, -⟩ := draftFields_cons_eq_ok.1 h
      rcases List.mem_cons.1 hf with rfl | hf
      · exact ⟨b, hfirst⟩
      · exact ih hrest hf

/-- What a contribution holds, in a group of any sort, is held by the contribution of a field. -/
theorem mem_group_draftFields {β : Type} (group : Draft → List β) (hempty : group {} = [])
    (happend : ∀ a b x, x ∈ group (a ++ b) ↔ x ∈ group a ∨ x ∈ group b) {fields : List Field}
    {a : Draft} (h : draftFields d o table s fields = .ok a) {x : β} :
    x ∈ group a ↔ ∃ f ∈ fields, ∃ b, draftField d o table s f = .ok b ∧ x ∈ group b := by
  induction fields generalizing a with
  | nil => cases h; simp [hempty]
  | cons first rest ih =>
      obtain ⟨b, c, hfirst, hrest, rfl⟩ := draftFields_cons_eq_ok.1 h
      rw [happend, ih hrest]
      constructor
      · rintro (hx | ⟨f, hf, a, ha, hx⟩)
        · exact ⟨first, List.mem_cons_self .., b, hfirst, hx⟩
        · exact ⟨f, List.mem_cons_of_mem _ hf, a, ha, hx⟩
      · rintro ⟨f, hf, a, ha, hx⟩
        rcases List.mem_cons.1 hf with rfl | hf
        · rw [hfirst] at ha
          cases ha
          exact .inl hx
        · exact .inr ⟨f, hf, a, ha, hx⟩

theorem mem_statements_draftFields {fields : List Field} {a : Draft}
    (h : draftFields d o table s fields = .ok a) {st : Statement} :
    st ∈ a.statements table ↔
      ∃ f ∈ fields, ∃ b, draftField d o table s f = .ok b ∧ st ∈ b.statements table :=
  mem_group_draftFields (·.statements table) rfl (fun _ _ _ => Draft.mem_statements_append) h

/-- **What is said about the column of a field is said by the field**, in a group of any sort. -/
theorem mem_group_of_field {β : Type} (group : Draft → List β) (send : β → Statement)
    (hempty : group {} = [])
    (happend : ∀ a b x, x ∈ group (a ++ b) ↔ x ∈ group a ∨ x ∈ group b)
    (hsend : ∀ b x, x ∈ group b → send x ∈ b.statements table) {fields : List Field}
    (hfields : Declared d fields) {a b : Draft} (h : draftFields d o table s fields = .ok a)
    {f : Field} (hf : f ∈ fields) (hb : draftField d o table s f = .ok b) {x : β} :
    (x ∈ group a ∧ (send x).column? = some f.key) ↔ x ∈ group b := by
  rw [mem_group_draftFields group hempty happend h]
  constructor
  · rintro ⟨⟨g, hg, c, hc, hx⟩, hkey⟩
    have hsame : g.key = f.key :=
      Option.some.inj ((column?_of_draftField hc (hsend c x hx)).symm.trans hkey)
    obtain rfl := hfields.eq_of_key hg hf hsame
    rw [hb] at hc
    cases hc
    exact hx
  · intro hx
    exact ⟨⟨f, hf, b, hb, hx⟩, column?_of_draftField hb (hsend b x hx)⟩

theorem clause_of_draftFields {fields : List Field} {a : Draft}
    (h : draftFields d o table s fields = .ok a) {k : Clause}
    (hk : k ∈ a.modifies ++ a.adds ++ a.defaults) :
    ∃ f ∈ fields, ∃ b, draftField d o table s f = .ok b ∧ k ∈ b.modifies ++ b.adds ++ b.defaults :=
  (mem_group_draftFields (fun a => a.modifies ++ a.adds ++ a.defaults) rfl
    (fun a b x => by simp only [Draft.append_def, List.mem_append]; grind) h).1 hk

theorem comment_of_draftFields {fields : List Field} {a : Draft}
    (h : draftFields d o table s fields = .ok a) {st : Statement} (hst : st ∈ a.comments) :
    ∃ f ∈ fields, st = .commentColumn table f.key f.rule.label := by
  obtain ⟨f, hf, b, hb, hst⟩ :=
    (mem_group_draftFields Draft.comments rfl (fun _ _ _ => List.mem_append) h).1 hst
  exact ⟨f, hf, comment_of_draftField hb hst⟩

/-- Fields leave the columns of other keys alone. -/
theorem concerns_eq_false_of_draftFields {fields : List Field} {a : Draft}
    (h : draftFields d o table s fields = .ok a) {key : String}
    (hkey : ∀ f ∈ fields, f.key ≠ key) : ∀ st ∈ a.statements table, st.concerns key = false := by
  intro st hst
  obtain ⟨f, hf, b, hb, hst⟩ := (mem_statements_draftFields h).1 hst
  rw [Statement.concerns, column?_of_draftField hb hst]
  simpa using hkey f hf

/-- The field of a column that is there is reviewed in a plan, and its type is admitted. -/
theorem draftField_of_live {fields : List Field} {a : Draft}
    (h : draftFields d o table s fields = .ok a) {f : Field} (hf : f ∈ fields) {live : LiveColumn}
    (hlive : s.columns[f.key]? = some live) :
    gate d live.type (f.column d).type.storage ≠ .refused ∧
      draftField d o table s f = .ok ((review d o live (f.column d)).draft table f.key) := by
  obtain ⟨b, hb⟩ := draftField_of_draftFields h hf
  rw [draftField_of_some hlive] at hb ⊢
  by_cases hgate : gate d live.type (f.column d).type.storage = .refused
  · rw [if_pos hgate] at hb
    cases hb
  · exact ⟨hgate, if_neg hgate⟩

/-- **The statements about a column are those of its field.** -/
theorem filter_statements_of_mem {fields : List Field} (hfields : Declared d fields) {a b : Draft}
    (h : draftFields d o table s fields = .ok a) {f : Field} (hf : f ∈ fields)
    (hb : draftField d o table s f = .ok b) :
    (a.statements table).filter (·.concerns f.key) = b.statements table := by
  induction fields generalizing a with
  | nil => cases hf
  | cons first rest ih =>
      obtain ⟨b', c, hfirst, hrest, rfl⟩ := draftFields_cons_eq_ok.1 h
      -- the key is in the list once: the field is the first one, or the first one has another key
      rcases List.mem_cons.1 hf with rfl | hf'
      · rw [hb] at hfirst
        cases hfirst
        have halone := concerns_eq_false_of_draftFields hrest fun g hg => hfields.key_ne hg
        rw [Draft.filter_statements_append_left halone]
        refine List.filter_eq_self.2 fun st hst => ?_
        rw [Statement.concerns, column?_of_draftField hb hst]
        exact beq_self_eq_true _
      · have halone : ∀ st ∈ b'.statements table, st.concerns f.key = false := by
          intro st hst
          rw [Statement.concerns, column?_of_draftField hfirst hst]
          simpa using (hfields.key_ne hf').symm
        rw [Draft.filter_statements_append_right halone]
        exact ih hfields.tail hrest hf'

/-! ### Indexes -/

/-- **The index changes for a snapshot**: those of system columns first. -/
def indexChanges (table : String) (s : Snapshot) (columns : List Column) : List IndexChange :=
  systemIndexChanges table s ++ fieldIndexChanges table s columns

/-- How many indexes some changes make and drop. -/
def Counters.ofIndexChanges (actions : List IndexChange) : Counters :=
  { indexesCreated := actions.countP (·.verb = .create)
    indexesDropped := actions.countP (·.verb = .drop) }

theorem Counters.ofIndexChanges_append (as bs : List IndexChange) :
    Counters.ofIndexChanges (as ++ bs) =
      Counters.ofIndexChanges as + Counters.ofIndexChanges bs := by
  simp only [Counters.ofIndexChanges, List.countP_append]
  rfl

namespace IndexDraft

/-- The contribution of some index changes. -/
def ofChanges (actions : List IndexChange) : IndexDraft :=
  ⟨actions, Counters.ofIndexChanges actions⟩

theorem create_ofChanges (actions : List IndexChange) (key : String) :
    (ofChanges actions).create table key = ofChanges (actions ++ [createIndexOf table key]) := by
  rw [ofChanges, ofChanges, Counters.ofIndexChanges_append]
  rfl

theorem drop_ofChanges (actions : List IndexChange) (key : String) :
    (ofChanges actions).drop table key = ofChanges (actions ++ [dropIndexOf table key]) := by
  rw [ofChanges, ofChanges, Counters.ofIndexChanges_append]
  rfl

/-- A system column puts in the index that it misses. -/
theorem foldl_addSystem (keys : List String) (actions : List IndexChange) :
    keys.foldl (addSystem table s) (ofChanges actions) =
      ofChanges (actions ++ (keys.filter (missesIndex table s)).map (createIndexOf table)) := by
  induction keys generalizing actions with
  | nil => rw [List.filter_nil, List.map_nil, List.append_nil, List.foldl_nil]
  | cons key keys ih =>
      rw [List.foldl_cons, addSystem]
      by_cases h : missesIndex table s key = true
      · rw [if_pos h, create_ofChanges, ih, List.filter_cons_of_pos h, List.map_cons,
          List.append_assoc, List.singleton_append]
      · rw [if_neg h, ih, List.filter_cons_of_neg h]

/-- One wanted column puts in the change of its index. -/
theorem addField_ofChanges (actions : List IndexChange) (c : Column) :
    addField table s (ofChanges actions) c =
      ofChanges (actions ++ (fieldIndexChange? table s c).toList) := by
  unfold addField fieldIndexChange?
  cases indexVerb? table s c with
  | none => exact congrArg ofChanges (List.append_nil actions).symm
  | some verb =>
      cases verb with
      | create => exact create_ofChanges actions c.key
      | drop => exact drop_ofChanges actions c.key

theorem foldl_addField (columns : List Column) (actions : List IndexChange) :
    columns.foldl (addField table s) (ofChanges actions) =
      ofChanges (actions ++ fieldIndexChanges table s columns) := by
  induction columns generalizing actions with
  | nil => exact congrArg ofChanges (List.append_nil actions).symm
  | cons c columns ih =>
      have hcons : fieldIndexChanges table s (c :: columns) =
          (fieldIndexChange? table s c).toList ++ fieldIndexChanges table s columns := by
        rw [fieldIndexChanges, List.filterMap_cons]
        cases fieldIndexChange? table s c <;> rfl
      rw [List.foldl_cons, addField_ofChanges, ih, hcons, List.append_assoc]

end IndexDraft

/-- **The indexes contribute their changes, and each is counted once.** -/
theorem draftIndexes_eq (table : String) (s : Snapshot) (columns : List Column) :
    draftIndexes table s columns = .ofChanges (indexChanges table s columns) := by
  have hempty : ({} : IndexDraft) = .ofChanges [] := rfl
  rw [draftIndexes, hempty, IndexDraft.foldl_addSystem, IndexDraft.foldl_addField]
  rfl

/-! ### Plans for existing tables -/

/-- **A plan is a contribution of the fields with the index changes.** -/
theorem planLiveTable_eq_ok_iff {fields : List Field} {p : Planned} :
    planLiveTable d o table fields s = .ok p ↔
      ∃ a, draftFields d o table s fields = .ok a ∧
        p = a.planned table (.ofChanges (indexChanges table s (fields.map (·.column d)))) := by
  cases h : draftFields d o table s fields with
  | error e => simp [planLiveTable, h]
  | ok a => simp [planLiveTable, h, draftIndexes_eq, eq_comm]

/-- The statements of a plan: those of the fields, with the index changes before the comments. -/
theorem statements_planned (a : Draft) (changes : List IndexChange) :
    (a.planned table (.ofChanges changes)).plan.statements =
      (a.modifies ++ a.adds ++ a.defaults).map (.alterTable table) ++
        changes.map (·.statement table) ++ a.comments := rfl

/-- **A live column about which nothing is done.** -/
structure IsSettled (d : Dialect) (o : Options) (live : LiveColumn) (c : Column) : Prop where
  admitted : gate d live.type c.type.storage ≠ .refused
  shape : (shapeStep d o.allowShrink live c).clauses = []
  default : (defaultStep d (shapeStep d o.allowShrink live c) live c).clauses = []
  comment : commentChange? (o.statesComments d) live c = none

theorem draftField_of_settled (table : String) {f : Field} {live : LiveColumn}
    (hlive : s.columns[f.key]? = some live)
    (h : IsSettled d o live (f.column d)) :
    ∃ cs, draftField d o table s f = .ok { counters := Counters.ofChanges cs } := by
  refine ⟨changes (o.statesComments d) live (f.column d), ?_⟩
  rw [draftField_of_some hlive, if_neg h.admitted, draft_review, h.shape, h.default, h.comment]
  rfl

/-- **A plan that does nothing**, and counts no new table, column or index and no dropped one. -/
structure Planned.IsIdle (p : Planned) : Prop where
  changed : p.plan.changed = false
  columnsAdded : p.counters.columnsAdded = 0
  indexesCreated : p.counters.indexesCreated = 0
  indexesDropped : p.counters.indexesDropped = 0
  tablesCreated : p.counters.tablesCreated = 0

/-- Counters of changes of live columns, perhaps of several columns. -/
def Counters.IsQuiet (c : Counters) : Prop :=
  c.columnsAdded = 0 ∧ c.indexesCreated = 0 ∧ c.indexesDropped = 0 ∧ c.tablesCreated = 0

theorem Counters.IsQuiet.add {a b : Counters} (ha : a.IsQuiet) (hb : b.IsQuiet) :
    (a + b).IsQuiet := by
  obtain ⟨ha₁, ha₂, ha₃, ha₄⟩ := ha
  obtain ⟨hb₁, hb₂, hb₃, hb₄⟩ := hb
  change (a.columnsAdded + b.columnsAdded = 0) ∧ (a.indexesCreated + b.indexesCreated = 0) ∧
    (a.indexesDropped + b.indexesDropped = 0) ∧ a.tablesCreated + b.tablesCreated = 0
  omega

theorem Counters.isQuiet_ofChanges (cs : List Change) : (Counters.ofChanges cs).IsQuiet := by
  induction cs with
  | nil => exact ⟨rfl, rfl, rfl, rfl⟩
  | cons c cs ih =>
      have hfirst : (Counters.ofAspect c.aspect).IsQuiet := by
        cases c.aspect <;> exact ⟨rfl, rfl, rfl, rfl⟩
      exact hfirst.add ih

theorem draftFields_of_settled (table : String) {fields : List Field}
    (h : ∀ f ∈ fields, ∃ live, s.columns[f.key]? = some live ∧ IsSettled d o live (f.column d)) :
    ∃ c : Counters, c.IsQuiet ∧ draftFields d o table s fields = .ok { counters := c } := by
  induction fields with
  | nil => exact ⟨0, ⟨rfl, rfl, rfl, rfl⟩, rfl⟩
  | cons f fs ih =>
      obtain ⟨live, hlive, hsettled⟩ := h f (List.mem_cons_self ..)
      obtain ⟨cs, hfirst⟩ := draftField_of_settled table hlive hsettled
      obtain ⟨c, hquiet, hrest⟩ := ih fun g hg => h g (List.mem_cons_of_mem _ hg)
      exact ⟨Counters.ofChanges cs + c, (Counters.isQuiet_ofChanges cs).add hquiet,
        draftFields_cons_eq_ok.2 ⟨_, _, hfirst, hrest, rfl⟩⟩

/-- **Where every column is settled and no index is missing, nothing changes.** -/
theorem planLiveTable_of_settled {fields : List Field}
    (hcolumns : ∀ f ∈ fields,
      ∃ live, s.columns[f.key]? = some live ∧ IsSettled d o live (f.column d))
    (hindexes : indexChanges table s (fields.map (·.column d)) = []) :
    ∃ p, planLiveTable d o table fields s = .ok p ∧ p.IsIdle := by
  obtain ⟨c, hquiet, hdraft⟩ := draftFields_of_settled table hcolumns
  refine ⟨_, planLiveTable_eq_ok_iff.2 ⟨_, hdraft, rfl⟩, ?_⟩
  rw [hindexes]
  have hsum : (c + Counters.ofIndexChanges []).IsQuiet := hquiet.add ⟨rfl, rfl, rfl, rfl⟩
  obtain ⟨hadded, hcreated, hdropped, htables⟩ := hsum
  exact ⟨rfl, hadded, hcreated, hdropped, htables⟩

end Conform

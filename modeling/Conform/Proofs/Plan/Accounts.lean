/-
**Every difference is accounted for.**

A difference between a live column and its field is carried out by a statement of the plan, or a
warning names the table and the column.  There is one silent case: long texts have no defaults under
MySQL.  A field without a difference contributes nothing, neither to the plan nor to the log.

Main definitions:

* `changeIn` — the difference in one aspect;
* `warning` — a warning about a column;
* `Carried` — what becomes of a difference in an aspect;
* `Accounts` — **what a plan and its log say of a field whose column is there**.

Main results:

* `shapeStep_of_change`, `defaultStep_of_change` — a difference is altered, restated or told;
* `liveTableLog_of_draftFields` — the log of a plan is what its fields contribute, in their order;
* `accounts_of_planLiveTable` — **a plan accounts for every field whose column is there**.
-/

import Conform.Proofs.Plan.Narrowing

set_option relaxedAutoImplicit false
set_option autoImplicit false

namespace Conform

variable {d : Dialect} {o : Options} {table : String} {s : Snapshot} {live : LiveColumn}
  {c : Column}

/-! ### Differences -/

theorem aspect_of_typeChange? {ch : Change} (h : typeChange? live c = some ch) :
    ch.aspect = .type := by
  unfold typeChange? at h
  split at h
  · cases h
  · cases h
    rfl

theorem aspect_of_lengthChange? {ch : Change} (h : lengthChange? live c = some ch) :
    ch.aspect = .length := by
  unfold lengthChange? at h
  split at h
  · cases h
  · split at h
    · cases h
    · cases h
      rfl

theorem aspect_of_defaultChange? {ch : Change} (h : defaultChange? live c = some ch) :
    ch.aspect = .default := by
  unfold defaultChange? at h
  split at h
  · cases h
  · cases h
    rfl

theorem aspect_of_commentChange? {compared : Bool} {ch : Change}
    (h : commentChange? compared live c = some ch) : ch.aspect = .comment := by
  unfold commentChange? at h
  split at h
  · cases h
  · cases h
    rfl

/-- **The difference in one aspect**, if there is one. -/
def changeIn (compared : Bool) (live : LiveColumn) (c : Column) : Aspect → Option Change
  | .type => typeChange? live c
  | .length => lengthChange? live c
  | .default => defaultChange? live c
  | .comment => commentChange? compared live c

theorem aspect_of_changeIn {compared : Bool} {a : Aspect} {ch : Change}
    (h : changeIn compared live c a = some ch) : ch.aspect = a := by
  cases a with
  | type => exact aspect_of_typeChange? h
  | length => exact aspect_of_lengthChange? h
  | default => exact aspect_of_defaultChange? h
  | comment => exact aspect_of_commentChange? h

/-- **The differences are those in each aspect.** -/
theorem mem_changes_iff {compared : Bool} {ch : Change} :
    ch ∈ changes compared live c ↔ changeIn compared live c ch.aspect = some ch := by
  have hsome : ch ∈ changes compared live c ↔ ∃ a, changeIn compared live c a = some ch := by
    simp only [changes, List.mem_append, Option.mem_toList]
    constructor
    · rintro (((h | h) | h) | h)
      · exact ⟨.type, h⟩
      · exact ⟨.length, h⟩
      · exact ⟨.default, h⟩
      · exact ⟨.comment, h⟩
    · rintro ⟨a, h⟩
      cases a with
      | type => exact .inl (.inl (.inl h))
      | length => exact .inl (.inl (.inr h))
      | default => exact .inl (.inr h)
      | comment => exact .inr h
  rw [hsome]
  constructor
  · rintro ⟨a, h⟩
    rwa [aspect_of_changeIn h]
  · exact fun h => ⟨ch.aspect, h⟩

theorem changeIn_of_changes_eq_nil {compared : Bool} (h : changes compared live c = [])
    (a : Aspect) : changeIn compared live c a = none := by
  cases hchange : changeIn compared live c a with
  | none => rfl
  | some ch =>
      have hmem : ch ∈ changes compared live c :=
        mem_changes_iff.2 (by rwa [aspect_of_changeIn hchange])
      rw [h] at hmem
      cases hmem

/-! ### Warnings -/

/-- **A warning about a column**: it names the table and the column. -/
def warning (table key reason : String) : Entry :=
  ⟨.warn, .planning, s!"{table}.{key}: {reason}"⟩

/-- Why a shorter length is not given to a column. -/
def shrinkReason (now wanted : Nat) : String :=
  s!"shrinking length from {now} to {wanted} skipped, set SYNC_ALLOW_SHRINK=1 to apply it"

/-- Why a type or a length is not given to a column at all. -/
def inPlaceReason (d : Dialect) : String :=
  s!"{d.name} cannot alter an existing column in place, type/length change skipped"

/-- Why a default is not given to a column. -/
def defaultReason : String :=
  "sqlite cannot alter a column default in place, default change skipped"

theorem warnings_skipShrink (d : Dialect) (table key : String) (now wanted : Nat) :
    (ShapeStep.skipShrink now wanted).warnings d table key =
      [warning table key (shrinkReason now wanted)] := by
  have hstart : ": shrinking length from " = ": " ++ "shrinking length from " := by decide
  have hend : " skipped, set SYNC_ALLOW_SHRINK=1 to apply it" =
      " skipped, " ++ "set SYNC_ALLOW_SHRINK=1 to apply it" := by decide
  unfold ShapeStep.warnings warning shrinkReason
  simp only [hstart, hend, toString, String.append_assoc]

theorem warnings_skipUnsupported (d : Dialect) (table key : String) :
    ShapeStep.skipUnsupported.warnings d table key = [warning table key (inPlaceReason d)] := by
  have hreason : " cannot alter an existing column in place, type/length change skipped" =
      " cannot alter an existing column in place, " ++ "type/length change skipped" := by decide
  simp only [ShapeStep.warnings, warning, inPlaceReason, toString, String.append_assoc, hreason]

theorem warnings_default (table key : String) :
    DefaultStep.skipUnsupported.warnings table key = [warning table key defaultReason] := by
  have hreason : ": sqlite cannot alter a column default in place, " ++ "default change skipped" =
      ": " ++ defaultReason := by decide
  simp only [DefaultStep.warnings, warning, toString, String.append_assoc, hreason]

/-! ### Steps -/

theorem shapeStep_eq_keep_iff {allowShrink : Bool} :
    shapeStep d allowShrink live c = .keep ↔
      typeChange? live c = none ∧ lengthChange? live c = none := by
  unfold shapeStep
  cases typeChange? live c <;> cases lengthChange? live c <;> cases Clause.retype? d c <;>
    cases shrinking? live c <;> cases allowShrink <;> simp

theorem shapeStep_eq_skipShrink_iff {allowShrink : Bool} {now wanted : Nat} :
    shapeStep d allowShrink live c = .skipShrink now wanted ↔
      (typeChange? live c ≠ none ∨ lengthChange? live c ≠ none) ∧
        shrinking? live c = some (now, wanted) ∧ allowShrink = false := by
  unfold shapeStep
  cases typeChange? live c <;> cases lengthChange? live c <;> cases Clause.retype? d c <;>
    cases shrinking? live c <;> cases allowShrink <;> simp [Prod.ext_iff]

/-- **A difference in type or length is altered or told.** -/
theorem shapeStep_of_change {allowShrink : Bool}
    (h : typeChange? live c ≠ none ∨ lengthChange? live c ≠ none) (table key : String) :
    (∃ k, shapeStep d allowShrink live c = .alter k) ∨
      ∃ reason, (shapeStep d allowShrink live c).warnings d table key =
        [warning table key reason] := by
  cases hshape : shapeStep d allowShrink live c with
  | keep =>
      obtain ⟨htype, hlength⟩ := shapeStep_eq_keep_iff.1 hshape
      exact absurd h (by simp [htype, hlength])
  | alter k => exact .inl ⟨k, rfl⟩
  | skipShrink now wanted => exact .inr ⟨_, warnings_skipShrink d table key now wanted⟩
  | skipUnsupported => exact .inr ⟨_, warnings_skipUnsupported d table key⟩

/-- **A shorter length is told and not given**, where columns may not shrink. -/
theorem shapeStep_of_shrinking {now wanted : Nat} (hnow : live.length = some now)
    (hwanted : c.type.length = some wanted) (hlt : wanted < now) :
    shapeStep d false live c = .skipShrink now wanted := by
  refine shapeStep_eq_skipShrink_iff.2 ⟨.inr ?_, ?_, rfl⟩
  · rw [lengthChange?_ne_none_iff hwanted, hnow]
    exact fun e => absurd (Option.some.inj e) (by omega)
  · simp only [shrinking?, hnow, hwanted, if_pos hlt]

/-- **A difference in the default is altered, restated or told**, or it is that of a long text
under MySQL. -/
theorem defaultStep_of_change (d : Dialect) (shape : ShapeStep) (h : defaultChange? live c ≠ none) :
    defaultStep d shape live c = .alter (.alterDefault c.key c.default) ∨
      (d = .mysql ∧ shape.alters = true) ∨
      (d = .sqlite ∧ defaultStep d shape live c = .skipUnsupported) ∨
      (d = .mysql ∧ TypeName.isText live.type = true) := by
  obtain ⟨ch, hch⟩ := Option.ne_none_iff_exists'.1 h
  unfold defaultStep
  rw [hch]
  cases d with
  | mysql =>
      cases hshape : shape.alters with
      | true => exact .inr (.inl ⟨rfl, rfl⟩)
      | false =>
          cases htext : TypeName.isText live.type with
          | true => exact .inr (.inr (.inr ⟨rfl, rfl⟩))
          | false => exact .inl (by simp [Clause.redefault?, htext])
  | postgres => exact .inl (by simp [Clause.redefault?, Dialect.restatesDefault])
  | sqlite => exact .inr (.inr (.inl ⟨rfl, by simp [Clause.redefault?, Dialect.restatesDefault]⟩))

/-- Long texts stay long texts under MySQL. -/
theorem storage_of_isText {liveType : String} {wanted : Storage}
    (hgate : gate .mysql liveType wanted ≠ .refused) (htext : TypeName.isText liveType = true) :
    TypeName.same liveType wanted.keyword = true ∧ wanted = .text := by
  have hfold : TypeName.fold liveType = "text" := by simpa [TypeName.isText] using htext
  have hstring : TypeName.isString liveType = false := by
    rw [TypeName.isString, hfold]
    decide
  have hsame : TypeName.same liveType wanted.keyword = true := by
    cases hother : TypeName.same liveType wanted.keyword with
    | true => rfl
    | false => exact absurd (by simp [gate, hother, hstring]) hgate
  refine ⟨hsame, ?_⟩
  rw [TypeName.same, hfold] at hsame
  -- no other type is folded to a long text
  cases wanted with
  | text => rfl
  | varchar => exact absurd hsame (by decide +kernel)
  | bigint => exact absurd hsame (by decide +kernel)
  | integer => exact absurd hsame (by decide +kernel)

theorem shapeStep_of_isText (allowShrink : Bool) {f : Field}
    (hgate : gate .mysql live.type (f.column .mysql).type.storage ≠ .refused)
    (htext : TypeName.isText live.type = true) :
    shapeStep .mysql allowShrink live (f.column .mysql) = .keep := by
  obtain ⟨hsame, hstorage⟩ := storage_of_isText hgate htext
  -- a field that is stored as a long text is not bounded, so it has no length to compare
  have hlength : (f.column .mysql).type.length = none := by
    cases hkind : f.rule.kind <;> simp_all [Field.column, Kind.columnType, Kind.storage,
      Kind.isBounded]
  refine shapeStep_eq_keep_iff.2 ⟨?_, ?_⟩
  · rw [typeChange?, if_pos hsame]
  · rw [lengthChange?, hlength]

/-! ### The log -/

theorem fieldLog_of_live {f : Field} (hlive : s.columns[f.key]? = some live)
    (hgate : gate d live.type (f.column d).type.storage ≠ .refused) :
    fieldLog d o table s f =
      (changes (o.statesComments d) live (f.column d)).map (·.entry table f.key) ++
        ((gate d live.type (f.column d).type.storage).entries table f.key live.type
            (f.column d).type.storage.keyword ++
          (shapeStep d o.allowShrink live (f.column d)).warnings d table f.key ++
          (defaultStep d (shapeStep d o.allowShrink live (f.column d)) live
            (f.column d)).warnings table f.key) := by
  have hchanges : (review d o live (f.column d)).changes =
      changes (o.statesComments d) live (f.column d) := by
    simp only [review]
  have hreview : fieldLog d o table s f =
      (review d o live (f.column d)).log d table live (f.column d) := by
    simp only [fieldLog, Field.key_column, hlive]
  rw [hreview, Review.log, hchanges, gate_review, if_neg hgate, shape_review, default_review]
  rfl

/-- **The log of a plan is what its fields contribute**, in their order, and what the indexes do. -/
theorem liveTableLog_of_draftFields {fields : List Field} {a : Draft}
    (h : draftFields d o table s fields = .ok a) :
    liveTableLog d o table fields s =
      fields.flatMap (fieldLog d o table s) ++ indexLog table s (fields.map (·.column d)) := by
  have hfields : fieldsLog d o table s fields = fields.flatMap (fieldLog d o table s) := by
    induction fields generalizing a with
    | nil => rfl
    | cons f fs ih =>
        obtain ⟨b, c, hfirst, hrest, -⟩ := draftFields_cons_eq_ok.1 h
        rw [fieldsLog, hfirst, List.flatMap_cons, ← ih hrest]
  rw [liveTableLog, h, hfields]

theorem level_of_mem_indexLog {columns : List Column} {e : Entry}
    (h : e ∈ indexLog table s columns) : e.level = .info := by
  rcases List.mem_append.1 h with h | h
  · obtain ⟨a, _, rfl⟩ := List.mem_map.1 h
    rfl
  · obtain ⟨⟨verb, index, key⟩, _, rfl⟩ := List.mem_map.1 h
    cases verb <;> rfl

/-! ### Accounts -/

/-- **What becomes of a difference in an aspect.**

A type or a length is changed by the clause of the dialect, or a warning is logged; if the length
would shrink and may not, it is the warning.  A default is changed by a clause of its own, or stated
again with the whole column under MySQL, or a warning is logged under SQLite, or it is that of a
long text under MySQL.  A comment is stated. -/
def Carried (d : Dialect) (o : Options) (table : String) (s : Snapshot) (p : Planned) (f : Field)
    (live : LiveColumn) : Aspect → Prop
  | .type | .length =>
      ((∃ k ∈ p.plan.modifies, Clause.retype? d (f.column d) = some k) ∨
        ∃ reason, warning table f.key reason ∈ fieldLog d o table s f) ∧
      ∀ now wanted, live.length = some now → f.rule.length = some wanted → wanted < now →
        o.allowShrink = false →
          (∀ k ∈ p.plan.modifies, k.key ≠ f.key) ∧
            warning table f.key (shrinkReason now wanted) ∈ fieldLog d o table s f
  | .default =>
      Clause.alterDefault f.key f.rule.default ∈ p.plan.defaults ∨
      (d = .mysql ∧ Clause.modifyColumn (f.column d) ∈ p.plan.modifies) ∨
      (d = .sqlite ∧ warning table f.key defaultReason ∈ fieldLog d o table s f) ∨
      (d = .mysql ∧ TypeName.isText live.type = true)
  | .comment => Statement.commentColumn table f.key f.rule.label ∈ p.plan.comments

/-- **What a plan and its log say of a field whose column is there.** -/
structure Accounts (d : Dialect) (o : Options) (table : String) (s : Snapshot) (p : Planned)
    (f : Field) (live : LiveColumn) : Prop where
  carried : ∀ ch ∈ changes (o.statesComments d) live (f.column d),
    Carried d o table s p f live ch.aspect
  /-- Long texts have no defaults under MySQL, and none is stated or dropped. -/
  longText : d = .mysql → TypeName.isText live.type = true →
    ∀ k ∈ p.plan.modifies ++ p.plan.adds ++ p.plan.defaults, k.key ≠ f.key
  /-- Without a difference nothing is said. -/
  quiet : changes (o.statesComments d) live (f.column d) = [] →
    (∀ k ∈ p.plan.modifies ++ p.plan.adds ++ p.plan.defaults, k.key ≠ f.key) ∧
      (∀ st ∈ p.plan.comments, st.column? ≠ some f.key) ∧ fieldLog d o table s f = []

section Field

variable {fields : List Field} (hfields : Declared d fields) {p : Planned}
  (hplan : planLiveTable d o table fields s = .ok p) {f : Field} (hf : f ∈ fields)
  (hlive : s.columns[f.key]? = some live)

include hplan hf hlive in
theorem gate_of_plan : gate d live.type (f.column d).type.storage ≠ .refused := by
  obtain ⟨a, hdraft, -⟩ := planLiveTable_eq_ok_iff.1 hplan
  exact (draftField_of_live hdraft hf hlive).1

include hfields hplan hf hlive in
/-- No column is added that is there. -/
theorem key_ne_of_mem_adds {k : Clause} (hk : k ∈ p.plan.adds) : k.key ≠ f.key := by
  obtain ⟨a, hdraft, rfl⟩ := planLiveTable_eq_ok_iff.1 hplan
  have hgroup := mem_group_of_field Draft.adds (.alterTable table) rfl
    (fun _ _ _ => List.mem_append)
    (fun _ k hk => Draft.mem_statements_iff.2 (.inl ⟨k, .inr (.inl hk), rfl⟩)) hfields hdraft hf
    (draftField_of_live hdraft hf hlive).2 (x := k)
  rw [draft_review] at hgroup
  intro hkey
  cases hgroup.1 ⟨hk, congrArg some hkey⟩

include hfields hplan hf hlive in
/-- The clauses of a plan that change the default of a live column are those of its field. -/
theorem defaults_of_field {k : Clause} :
    (k ∈ p.plan.defaults ∧ k.key = f.key) ↔
      defaultStep d (shapeStep d o.allowShrink live (f.column d)) live (f.column d) =
        .alter k := by
  obtain ⟨a, hdraft, rfl⟩ := planLiveTable_eq_ok_iff.1 hplan
  have hgroup := mem_group_of_field Draft.defaults (.alterTable table) rfl
    (fun _ _ _ => List.mem_append)
    (fun _ k hk => Draft.mem_statements_iff.2 (.inl ⟨k, .inr (.inr hk), rfl⟩)) hfields hdraft hf
    (draftField_of_live hdraft hf hlive).2 (x := k)
  rw [draft_review] at hgroup
  rw [← mem_clauses_default, ← hgroup, Statement.column?, Option.some_inj]
  rfl

include hfields hplan hf hlive in
/-- The comments of a plan about a live column are those of its field. -/
theorem comments_of_field {st : Statement} :
    (st ∈ p.plan.comments ∧ st.column? = some f.key) ↔
      commentChange? (o.statesComments d) live (f.column d) ≠ none ∧
        st = .commentColumn table f.key f.rule.label := by
  obtain ⟨a, hdraft, rfl⟩ := planLiveTable_eq_ok_iff.1 hplan
  have hgroup := mem_group_of_field Draft.comments id rfl (fun _ _ _ => List.mem_append)
    (fun _ _ hst => Draft.mem_statements_iff.2 (.inr hst)) hfields hdraft hf
    (draftField_of_live hdraft hf hlive).2 (x := st)
  rw [draft_review] at hgroup
  refine hgroup.trans ?_
  cases hchange : commentChange? (o.statesComments d) live (f.column d) with
  | none => simp
  | some ch =>
      have hlabel : ch.wanted = f.rule.label := wanted_of_commentChange? hchange
      simp [hlabel]

include hfields hplan hf hlive in
/-- A column is in no clause of a plan if nothing is done about its shape and its default. -/
theorem key_ne_of_not_alters
    (hshape : ∀ k, shapeStep d o.allowShrink live (f.column d) ≠ .alter k)
    (hdefault : ∀ k,
      defaultStep d (shapeStep d o.allowShrink live (f.column d)) live (f.column d) ≠ .alter k) :
    ∀ k ∈ p.plan.modifies ++ p.plan.adds ++ p.plan.defaults, k.key ≠ f.key := by
  intro k hk hkey
  rw [List.mem_append, List.mem_append] at hk
  rcases hk with (hk | hk) | hk
  · exact hshape k ((modifies_of_field hfields hplan hf hlive).1 ⟨hk, hkey⟩)
  · exact key_ne_of_mem_adds hfields hplan hf hlive hk hkey
  · exact hdefault k ((defaults_of_field hfields hplan hf hlive).1 ⟨hk, hkey⟩)

include hplan hf hlive in
/-- What is told about the shape and the default of a column is told by its field. -/
theorem mem_fieldLog_of_warnings {e : Entry}
    (h : e ∈ (shapeStep d o.allowShrink live (f.column d)).warnings d table f.key ∨
      e ∈ (defaultStep d (shapeStep d o.allowShrink live (f.column d)) live
        (f.column d)).warnings table f.key) : e ∈ fieldLog d o table s f := by
  rw [fieldLog_of_live hlive (gate_of_plan hplan hf hlive)]
  refine List.mem_append_right _ ?_
  rcases h with h | h
  · exact List.mem_append_left _ (List.mem_append_right _ h)
  · exact List.mem_append_right _ h

include hfields hplan hf hlive in
theorem carried_shape (h : typeChange? live (f.column d) ≠ none ∨
      lengthChange? live (f.column d) ≠ none) :
    Carried d o table s p f live .type := by
  refine ⟨?_, fun now wanted hnow hwanted hlt hshrink => ?_⟩
  · rcases shapeStep_of_change h table f.key with ⟨k, halter⟩ | ⟨reason, htold⟩
    · exact .inl ⟨k, ((modifies_of_field hfields hplan hf hlive).2 halter).1,
        retype?_of_shapeStep halter⟩
    · refine .inr ⟨reason, mem_fieldLog_of_warnings hplan hf hlive (.inl ?_)⟩
      rw [htold]
      exact List.mem_singleton.2 rfl
  · have hskip : shapeStep d o.allowShrink live (f.column d) = .skipShrink now wanted := by
      rw [hshrink]
      exact shapeStep_of_shrinking hnow (Declared.length_column f ▸ hwanted) hlt
    refine ⟨fun k hk hkey => ?_, mem_fieldLog_of_warnings hplan hf hlive (.inl ?_)⟩
    · have halter := (modifies_of_field hfields hplan hf hlive).1 ⟨hk, hkey⟩
      rw [hskip] at halter
      cases halter
    · rw [hskip, warnings_skipShrink]
      exact List.mem_singleton.2 rfl

include hfields hplan hf hlive in
theorem carried_default (h : defaultChange? live (f.column d) ≠ none) :
    Carried d o table s p f live .default := by
  rcases defaultStep_of_change d (shapeStep d o.allowShrink live (f.column d)) h with
    halter | ⟨rfl, halters⟩ | ⟨rfl, htold⟩ | ⟨rfl, htext⟩
  · exact .inl ((defaults_of_field hfields hplan hf hlive).2 halter).1
  · refine .inr (.inl ⟨rfl, ?_⟩)
    cases hshape : shapeStep .mysql o.allowShrink live (f.column .mysql) with
    | alter k =>
        cases retype?_of_shapeStep hshape
        exact ((modifies_of_field hfields hplan hf hlive).2 hshape).1
    | keep | skipShrink _ _ | skipUnsupported => rw [hshape] at halters; cases halters
  · refine .inr (.inr (.inl ⟨rfl, mem_fieldLog_of_warnings hplan hf hlive (.inr ?_)⟩))
    rw [htold, warnings_default]
    exact List.mem_singleton.2 rfl
  · exact .inr (.inr (.inr ⟨rfl, htext⟩))

include hfields hplan hf hlive in
/-- No clause is about a long text under MySQL. -/
theorem key_ne_of_isText (hd : d = .mysql) (htext : TypeName.isText live.type = true) :
    ∀ k ∈ p.plan.modifies ++ p.plan.adds ++ p.plan.defaults, k.key ≠ f.key := by
  subst hd
  have hkeep := shapeStep_of_isText o.allowShrink (gate_of_plan hplan hf hlive) htext
  refine key_ne_of_not_alters hfields hplan hf hlive (fun k halter => ?_) fun k halter => ?_
  · rw [hkeep] at halter
    cases halter
  · have hredefault := redefault?_of_defaultStep halter
    rw [Clause.redefault?, if_pos htext] at hredefault
    cases hredefault

include hfields hplan hf hlive in
theorem quiet_of_changes_eq_nil (h : changes (o.statesComments d) live (f.column d) = []) :
    (∀ k ∈ p.plan.modifies ++ p.plan.adds ++ p.plan.defaults, k.key ≠ f.key) ∧
      (∀ st ∈ p.plan.comments, st.column? ≠ some f.key) ∧ fieldLog d o table s f = [] := by
  have htype : typeChange? live (f.column d) = none := changeIn_of_changes_eq_nil h .type
  have hshape : shapeStep d o.allowShrink live (f.column d) = .keep :=
    shapeStep_eq_keep_iff.2 ⟨htype, changeIn_of_changes_eq_nil h .length⟩
  have hdefault : defaultStep d (shapeStep d o.allowShrink live (f.column d)) live (f.column d) =
      .keep := by
    have hnone : defaultChange? live (f.column d) = none := changeIn_of_changes_eq_nil h .default
    rw [defaultStep, hnone]
    rfl
  have hgate : gate d live.type (f.column d).type.storage = .unchanged := by
    cases hsame : TypeName.same live.type (f.column d).type.storage.keyword with
    | true => rw [gate, if_pos hsame]
    | false => exact absurd htype (typeChange?_ne_none_iff.2 hsame)
  refine ⟨?_, fun st hst hkey => ?_, ?_⟩
  · refine key_ne_of_not_alters hfields hplan hf hlive (fun k halter => ?_) fun k halter => ?_
    · rw [hshape] at halter
      cases halter
    · rw [hdefault] at halter
      cases halter
  · exact ((comments_of_field hfields hplan hf hlive).1 ⟨hst, hkey⟩).1
      (changeIn_of_changes_eq_nil h .comment)
  · rw [fieldLog_of_live hlive (gate_of_plan hplan hf hlive), h, hgate, hdefault, hshape]
    rfl

include hfields hplan hf hlive in
/-- **A plan accounts for a field whose column is there.** -/
theorem accounts_of_field : Accounts d o table s p f live := by
  refine ⟨fun ch hch => ?_, key_ne_of_isText hfields hplan hf hlive,
    quiet_of_changes_eq_nil hfields hplan hf hlive⟩
  have hchange : changeIn (o.statesComments d) live (f.column d) ch.aspect ≠ none :=
    Option.ne_none_iff_exists'.2 ⟨ch, mem_changes_iff.1 hch⟩
  generalize ch.aspect = a at hchange ⊢
  cases a with
  | type => exact carried_shape hfields hplan hf hlive (.inl hchange)
  | length => exact carried_shape hfields hplan hf hlive (.inr hchange)
  | default => exact carried_default hfields hplan hf hlive hchange
  | comment => exact ((comments_of_field hfields hplan hf hlive).2 ⟨hchange, rfl⟩).1

end Field

/-- **A plan accounts for every difference.**  Its log is what its fields contribute, and what the
indexes do, where nothing is warned of; and every field whose column is there is accounted for. -/
theorem accounts_of_planLiveTable (d : Dialect) (o : Options) (t : Definition) (s : Snapshot)
    {fields : List Field} (hread : t.readFields d = .ok fields) {p : Planned}
    (hplan : planLiveTable d o t.table fields s = .ok p) :
    (liveTableLog d o t.table fields s =
        fields.flatMap (fieldLog d o t.table s) ++ indexLog t.table s (fields.map (·.column d)) ∧
      ∀ e ∈ indexLog t.table s (fields.map (·.column d)), e.level = .info) ∧
    ∀ f ∈ fields, ∀ live, s.columns[f.key]? = some live → Accounts d o t.table s p f live := by
  obtain ⟨a, hdraft, -⟩ := planLiveTable_eq_ok_iff.1 hplan
  refine ⟨⟨liveTableLog_of_draftFields hdraft, fun e => level_of_mem_indexLog⟩, ?_⟩
  intro f hf live hlive
  exact accounts_of_field (declared_of_readFields hread) hplan hf hlive

/-- Longer addresses with a default, as MySQL reports them. -/
def lengthyAddress : LiveColumn := ⟨"varchar", some 100, true, some "x", none⟩

/-- A table of users with such addresses. -/
def lengthyUsers : Snapshot := ⟨Std.ExtTreeMap.ofList [("email", lengthyAddress)], ∅⟩

/-- The plan that drops the default and keeps the length. -/
def undefaultUsers : Planned :=
  { plan := { table := "user", changed := true, defaults := [.alterDefault "email" .absent] }
    counters := { lengths := 1, defaults := 1 } }

/-- The longer addresses of users are kept with a warning, and their default is dropped. -/
theorem accounts_lengthyUsers :
    planLiveTable .mysql {} "user" userFields lengthyUsers = .ok undefaultUsers ∧
      warning "user" "email" (shrinkReason 100 20) ∈
        fieldLog .mysql {} "user" lengthyUsers addressField ∧
      Carried .mysql {} "user" lengthyUsers undefaultUsers addressField lengthyAddress
        .default := by
  have hplan : planLiveTable .mysql {} users.table userFields lengthyUsers = .ok undefaultUsers :=
    eq_ok_of_toOption (by decide +kernel)
  have haccounts := (accounts_of_planLiveTable .mysql {} users lengthyUsers
    (readFields_users .mysql) hplan).2 addressField (List.mem_singleton.2 rfl) lengthyAddress
      (by decide +kernel)
  have hchanges : changes (Options.statesComments {} .mysql) lengthyAddress
      (addressField.column .mysql) = [⟨.length, "100", "20"⟩, ⟨.default, "x", "NULL"⟩] := by
    decide +kernel
  have hlength : ⟨.length, "100", "20"⟩ ∈ changes (Options.statesComments {} .mysql)
      lengthyAddress (addressField.column .mysql) := hchanges ▸ List.mem_cons_self ..
  have hdefault : ⟨.default, "x", "NULL"⟩ ∈ changes (Options.statesComments {} .mysql)
      lengthyAddress (addressField.column .mysql) :=
    hchanges ▸ List.mem_cons_of_mem _ (List.mem_cons_self ..)
  have hwanted : addressField.rule.length = some 20 := by decide +kernel
  exact ⟨hplan, ((haccounts.carried _ hlength).2 100 20 rfl hwanted (by decide) rfl).2,
    haccounts.carried _ hdefault⟩

end Conform

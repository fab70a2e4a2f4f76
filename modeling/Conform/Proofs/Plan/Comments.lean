/-
**The comments that are stated again after an interruption.**

A table is made by one statement and gets its comments by others: one for the table, one for each
system column, and one for the label of each declared column.  If the run ends among them, the next
one finds the columns with the comments that were stated, and compares those of the declared columns
with their labels.  So it states the labels that are missing, in their order, and nothing that was
stated before.  The comment of the table and those of the system columns it does not compare with
anything: they are stated where the table is made, or not at all.

Main definitions:

* `Snapshot.ShowsComments` — that a snapshot shows the declared columns with the comments of some
  statements, and with no others;
* `Statement.isLabel` — that a statement is about a declared column.

Main results:

* `comments_draftFields` — the labels that are not shown are stated again;
* `comments_nodup`, `filter_isLabel` — the comments of a new table are different from each other,
  and those of its declared columns are their labels;
* `showsComments_applyAll` — a table that was made shows the comments that were stated on it;
* `restated_comments` — **after an interruption exactly the missing labels are stated**.
-/

import Conform.Proofs.Plan.Aims

set_option relaxedAutoImplicit false
set_option autoImplicit false

namespace Conform

variable {d : Dialect} {o : Options} {table : String} {s : Snapshot} {fields : List Field}

/-! ### What a snapshot shows -/

/-- **That a snapshot shows the declared columns with the comments of some statements**, and with no
others.  The columns have types that are admitted. -/
def Snapshot.ShowsComments (s : Snapshot) (d : Dialect) (table : String) (fields : List Field)
    (done : List Statement) : Prop :=
  ∀ f ∈ fields, ∃ live, s.columns[f.key]? = some live ∧
    gate d live.type (f.column d).type.storage ≠ .refused ∧
    ∀ text, live.comment = some text ↔ .commentColumn table f.key text ∈ done

/-- The statement of a label, if a column has one. -/
theorem labelStatement?_eq_some_iff {f : Field} {st : Statement} :
    labelStatement? table (f.column d) = some st ↔
      f.rule.label ≠ "" ∧ st = .commentColumn table f.key f.rule.label := by
  have hlabel : (f.column d).label = f.rule.label := rfl
  unfold labelStatement?
  rw [hlabel, Field.key_column]
  split
  next hnone => simp [hnone]
  next hsome => simp [hsome, eq_comm]

/-! ### What is stated again -/

/-- **A label is stated exactly if it is not shown.** -/
theorem comments_draftField (hstates : o.statesComments d = true) {f : Field} {live : LiveColumn}
    {done : List Statement} (hlive : s.columns[f.key]? = some live)
    (hgate : gate d live.type (f.column d).type.storage ≠ .refused)
    (hshown : ∀ text, live.comment = some text ↔ .commentColumn table f.key text ∈ done)
    (hdone : ∀ text, .commentColumn table f.key text ∈ done →
      labelStatement? table (f.column d) = some (.commentColumn table f.key text)) :
    ∃ a, draftField d o table s f = .ok a ∧
      a.comments = (labelStatement? table (f.column d)).toList.filter fun st => st ∉ done := by
  refine ⟨_, (draftField_of_some hlive).trans (if_neg hgate), ?_⟩
  have hlabel : (f.column d).label = f.rule.label := rfl
  rw [draft_review, hstates]
  cases hcomment : live.comment with
  | some text =>
      -- what is shown is the label
      have hmem := (hshown text).1 hcomment
      obtain ⟨hsome, hst⟩ := labelStatement?_eq_some_iff.1 (hdone text hmem)
      obtain rfl : text = f.rule.label := by simpa using hst
      simp [commentChange?, hcomment, hlabel, labelStatement?_eq_some_iff.2 ⟨hsome, rfl⟩, hmem]
  | none =>
      by_cases hempty : f.rule.label = ""
      · simp [commentChange?, hcomment, hlabel, hempty, labelStatement?]
      · have hnot : .commentColumn table f.key f.rule.label ∉ done := by
          intro hmem
          rw [(hshown _).2 hmem] at hcomment
          cases hcomment
        simp [commentChange?, hcomment, hlabel, Ne.symm hempty,
          labelStatement?_eq_some_iff.2 ⟨hempty, rfl⟩, hnot]

/-- **The labels that are not shown are stated again**, in the order of the fields. -/
theorem comments_draftFields (hstates : o.statesComments d = true) {done : List Statement}
    (hshows : s.ShowsComments d table fields done)
    (hdone : ∀ f ∈ fields, ∀ text, .commentColumn table f.key text ∈ done →
      labelStatement? table (f.column d) = some (.commentColumn table f.key text)) :
    ∃ a, draftFields d o table s fields = .ok a ∧
      a.comments = ((fields.map (·.column d)).filterMap (labelStatement? table)).filter
        fun st => st ∉ done := by
  induction fields with
  | nil => exact ⟨{}, rfl, rfl⟩
  | cons f fs ih =>
      obtain ⟨live, hlive, hgate, hshown⟩ := hshows f (List.mem_cons_self ..)
      obtain ⟨a, ha, hcomments⟩ :=
        comments_draftField hstates hlive hgate hshown (hdone f (List.mem_cons_self ..))
      obtain ⟨b, hb, hrest⟩ := ih (fun g hg => hshows g (List.mem_cons_of_mem _ hg))
        fun g hg => hdone g (List.mem_cons_of_mem _ hg)
      refine ⟨a ++ b, draftFields_cons_eq_ok.2 ⟨a, b, ha, hb, rfl⟩, ?_⟩
      have happend : (a ++ b).comments = a.comments ++ b.comments := rfl
      rw [happend, hcomments, hrest, ← List.filter_append, List.map_cons, List.filterMap_cons]
      cases labelStatement? table (f.column d) <;> rfl

/-! ### The comments of a new table -/

/-- **That a statement is about a declared column.** -/
def Statement.isLabel (fields : List Field) (st : Statement) : Bool :=
  fields.any fun f => st.concerns f.key

/-- **The comments of the declared columns are their labels.** -/
theorem filter_isLabel (hfields : Declared d fields) (comment : Option String) :
    (createComments table (fields.map (·.column d)) comment).filter (·.isLabel fields) =
      (fields.map (·.column d)).filterMap (labelStatement? table) := by
  have htable : (comment.map (Statement.commentTable table)).toList.filter (·.isLabel fields) =
      [] := by
    cases comment <;> simp [Statement.isLabel, Statement.concerns, Statement.column?]
  have hsystem : (systemColumns.map fun c => Statement.commentColumn table c.key c.label).filter
      (·.isLabel fields) = [] := by
    refine List.filter_eq_nil_iff.2 fun st hst hlabel => ?_
    obtain ⟨c, -, rfl⟩ := List.mem_map.1 hst
    obtain ⟨f, hf, hkey⟩ := List.any_eq_true.1 hlabel
    simp only [Statement.concerns, Statement.column?, beq_iff_eq, Option.some.injEq] at hkey
    exact hfields.key_ne_system hf c hkey.symm
  have hlabels : ((fields.map (·.column d)).filterMap (labelStatement? table)).filter
      (·.isLabel fields) = (fields.map (·.column d)).filterMap (labelStatement? table) := by
    refine List.filter_eq_self.2 fun st hst => ?_
    obtain ⟨c, hc, hlabel⟩ := List.mem_filterMap.1 hst
    obtain ⟨f, hf, rfl⟩ := List.mem_map.1 hc
    obtain ⟨-, rfl⟩ := labelStatement?_eq_some_iff.1 hlabel
    exact List.any_eq_true.2 ⟨f, hf, by simp [Statement.concerns, Statement.column?]⟩
  rw [createComments, List.filter_append, List.filter_append, htable, hsystem, hlabels]
  rfl

/-- A comment on a declared column is its label. -/
theorem labelStatement?_of_mem (hfields : Declared d fields) {comment : Option String} {f : Field}
    (hf : f ∈ fields) {text : String}
    (h : .commentColumn table f.key text ∈ createComments table (fields.map (·.column d)) comment) :
    labelStatement? table (f.column d) = some (.commentColumn table f.key text) := by
  have hmem : .commentColumn table f.key text ∈
      (createComments table (fields.map (·.column d)) comment).filter (·.concerns f.key) :=
    List.mem_filter.2 ⟨h, by simp [Statement.concerns, Statement.column?]⟩
  rw [filter_createComments hfields hf comment] at hmem
  exact Option.mem_toList.1 hmem

theorem Statement.aims_ne_nil (st : Statement) : st.aims ≠ [] := by
  cases st with
  | alterTable table clause => cases clause <;> simp [aims, Aim.ofColumn]
  | _ => simp [aims]

/-- **The comments of a new table are different from each other**: they have different aims. -/
theorem comments_nodup (hfields : Declared d fields) (comment : Option String) :
    (createComments table (fields.map (·.column d)) comment).Nodup := by
  have haims : ((createComments table (fields.map (·.column d)) comment).flatMap
      Statement.aims).Nodup := by
    refine (aims_createComments table _ comment).nodup (List.nodup_cons.2 ⟨by simp, ?_⟩)
    exact (newColumns_nodup hfields).map fun _ _ e => Aim.comment.inj e
  refine (List.nodup_flatMap.1 haims).2.imp fun {st st'} hdisjoint => ?_
  rintro rfl
  -- a statement has an aim, and it would share it with itself
  obtain ⟨aim, haim⟩ := List.exists_mem_of_ne_nil st.aims st.aims_ne_nil
  exact hdisjoint haim haim

/-- What follows the first statements of a list is what is not among them. -/
theorem drop_eq_filter {sts : List Statement} (h : sts.Nodup) (k : Nat) :
    sts.drop k = sts.filter fun st => st ∉ sts.take k := by
  have hsplit := List.take_append_drop k sts
  have hdisjoint := (List.nodup_append.1 (hsplit ▸ h)).2.2
  have hfirst : (sts.take k).filter (fun st => st ∉ sts.take k) = [] := by
    simp
  have hlast : (sts.drop k).filter (fun st => st ∉ sts.take k) = sts.drop k := by
    refine List.filter_eq_self.2 fun st hst => decide_eq_true fun hmem => ?_
    exact hdisjoint st hmem st hst rfl
  conv_rhs => rw [← hsplit]
  rw [List.filter_append, hsplit, hfirst, hlast, List.nil_append]

/-- **A table that was made shows the comments that were stated on it.** -/
theorem showsComments_applyAll {r : Reporting} (hfields : Declared d fields)
    (hshows : ∀ f ∈ fields,
      TypeName.same (r.type (f.column d).type) (f.column d).type.storage.keyword = true)
    (comment : Option String) (k : Nat) :
    (s.applyAll r (.createTable table (fields.map (·.column d)) comment ::
        (createComments table (fields.map (·.column d)) comment).take k)).ShowsComments d table
      fields ((createComments table (fields.map (·.column d)) comment).take k) := by
  intro f hf
  generalize hdone : (createComments table (fields.map (·.column d)) comment).take k = done
  have hmem : ∀ st ∈ done, st ∈ createComments table (fields.map (·.column d)) comment := by
    rintro st hst
    exact List.mem_of_mem_take (hdone ▸ hst)
  have hnew : (s.apply r (.createTable table (fields.map (·.column d)) comment)).columns[f.key]? =
      some (r.column (f.column d)) := getElem?_newTable hfields hf
  -- of the statements that were executed, at most the label is about the column
  have hlabel : (done.filter (·.concerns f.key)) = [] ∨
      done.filter (·.concerns f.key) = [.commentColumn table f.key f.rule.label] := by
    have hsub : (done.filter (·.concerns f.key)).Sublist
        (labelStatement? table (f.column d)).toList := by
      rw [← filter_createComments hfields hf comment, ← hdone]
      exact (List.take_sublist k _).filter _
    cases hst : labelStatement? table (f.column d) with
    | none =>
        rw [hst] at hsub
        exact .inl (List.sublist_nil.1 hsub)
    | some st =>
        rw [hst] at hsub
        rw [← (labelStatement?_eq_some_iff.1 hst).2]
        exact List.sublist_singleton.1 hsub
  have hstated : ∀ text, .commentColumn table f.key text ∈ done ↔
      .commentColumn table f.key text ∈ done.filter (·.concerns f.key) := by
    intro text
    simp [Statement.concerns, Statement.column?]
  have hgate : gate d (r.type (f.column d).type) (f.column d).type.storage ≠ .refused := by
    rw [gate, if_pos (hshows f hf)]
    exact Gate.noConfusion
  have hcolumn : (s.applyAll r (.createTable table (fields.map (·.column d)) comment ::
      done)).columns[f.key]? =
        (done.filter (·.concerns f.key)).foldl r.effect (some (r.column (f.column d))) := by
    rw [Snapshot.applyAll_cons, Snapshot.getElem?_columns_applyAll, hnew]
    exact fun st hst => (index?_createComments st (hmem st hst)).1
  rcases hlabel with hnone | hsome
  · refine ⟨r.column (f.column d), ?_, hgate, fun text => ?_⟩
    · rw [hcolumn, hnone, List.foldl_nil]
    · rw [hstated, hnone]
      simp [Reporting.column]
  · refine ⟨{ r.column (f.column d) with comment := some f.rule.label }, ?_, hgate, fun text => ?_⟩
    · rw [hcolumn, hsome]
      rfl
    · rw [hstated, hsome]
      simp [eq_comm]

/-! ### After an interruption -/

/-- **After an interruption exactly the missing labels are stated.**  Under PostgreSQL, where
comments count, a table was made and got the first of its comments; whatever else the next run finds
different, it states the comments on declared columns that were not executed, in their order, and no
others.  Every database that shows the types of its columns reports such a table in this way. -/
theorem restated_comments (o : Options) (ho : o.comments = true) (t : Definition)
    {fields : List Field} (hread : t.readFields .postgres = .ok fields) (k : Nat) :
    (∀ s : Snapshot,
      s.ShowsComments .postgres t.table fields
          ((planNewTable .postgres o t.table fields t.comment).plan.comments.take k) →
        ∃ p, planLiveTable .postgres o t.table fields s = .ok p ∧
          p.plan.comments =
            ((planNewTable .postgres o t.table fields t.comment).plan.comments.drop k).filter
              (·.isLabel fields) ∧
          ∀ st ∈ p.plan.comments, st ∈ p.plan.statements) ∧
    ∀ (r : Reporting) (s : Snapshot),
      (∀ f ∈ fields, TypeName.same (r.type (f.column .postgres).type)
        (f.column .postgres).type.storage.keyword = true) →
      (s.applyAll r (.createTable t.table (fields.map (·.column .postgres)) t.comment ::
          (planNewTable .postgres o t.table fields t.comment).plan.comments.take k)).ShowsComments
        .postgres t.table fields
        ((planNewTable .postgres o t.table fields t.comment).plan.comments.take k) := by
  have hfields := declared_of_readFields hread
  have hstates : o.statesComments .postgres = true := ho
  have hcomments : (planNewTable .postgres o t.table fields t.comment).plan.comments =
      createComments t.table (fields.map (·.column .postgres)) t.comment := by
    simp [planNewTable, Plan.settle, hstates]
  rw [hcomments]
  refine ⟨fun s hs => ?_, fun r s hshows => showsComments_applyAll hfields hshows t.comment k⟩
  obtain ⟨a, hdraft, hrestated⟩ := comments_draftFields hstates hs fun f hf text hmem =>
    labelStatement?_of_mem hfields hf (List.mem_of_mem_take hmem)
  refine ⟨_, planLiveTable_eq_ok_iff.2 ⟨a, hdraft, rfl⟩, ?_, fun st hst => ?_⟩
  · calc a.comments
        = ((createComments t.table (fields.map (·.column .postgres)) t.comment).filter
            (·.isLabel fields)).filter fun st =>
              st ∉ (createComments t.table (fields.map (·.column .postgres)) t.comment).take k := by
          rw [hrestated, filter_isLabel hfields]
      _ = ((createComments t.table (fields.map (·.column .postgres)) t.comment).filter fun st =>
            st ∉ (createComments t.table (fields.map (·.column .postgres)) t.comment).take k).filter
              (·.isLabel fields) := List.filter_comm ..
      _ = _ := by rw [← drop_eq_filter (comments_nodup hfields t.comment) k]
  · rw [statements_planned]
    exact List.mem_append_right _ hst

/-- Users with their addresses, and with a comment on their table. -/
def describedUsers : Definition := { users with comment := some "people" }

/-- A database that spells types as PostgreSQL does, and whose system columns have no comments. -/
def uncommented : Reporting where
  type t := match t.storage with
    | .varchar => "character varying"
    | .text => "text"
    | .bigint => "bigint"
    | .integer => "integer"
  length t := t.length
  default := Default.value?
  system c := { firstWords c with comment := none }

/-- The table of these users as it is after the first of its comments. -/
def interruptedUsers (k : Nat) : Snapshot :=
  (⟨∅, ∅⟩ : Snapshot).applyAll uncommented
    (.createTable "user" (userFields.map (·.column .postgres)) (some "people") ::
      (planNewTable .postgres {} "user" userFields (some "people")).plan.comments.take k)

theorem readFields_describedUsers : describedUsers.readFields .postgres = .ok userFields :=
  readFields_users .postgres

/-- Where only the label of the addresses is missing, it is stated. -/
theorem restated_comments_users :
    describedUsers.readFields .postgres = .ok userFields ∧
      (interruptedUsers 6).ShowsComments .postgres "user" userFields
        ((planNewTable .postgres {} "user" userFields (some "people")).plan.comments.take 6) ∧
      ∃ p, planLiveTable .postgres {} "user" userFields (interruptedUsers 6) = .ok p ∧
        p.plan.comments = [.commentColumn "user" "email" "mail"] := by
  obtain ⟨hplan, hshown⟩ :=
    restated_comments {} rfl describedUsers readFields_describedUsers 6
  have hshows : (interruptedUsers 6).ShowsComments .postgres "user" userFields
      ((planNewTable .postgres {} "user" userFields (some "people")).plan.comments.take 6) :=
    hshown uncommented ⟨∅, ∅⟩ (by decide +kernel)
  obtain ⟨p, hp, hcomments, -⟩ := hplan _ hshows
  have hlabel : ((planNewTable .postgres {} "user" userFields (some "people")).plan.comments.drop
      6).filter (·.isLabel userFields) = [.commentColumn "user" "email" "mail"] := by
    decide +kernel
  exact ⟨readFields_describedUsers, hshows, p, hp, hcomments.trans hlabel⟩

/-- But the comment of the table is not stated again, and neither are those of system columns. -/
theorem table_comment_not_restated :
    ¬∀ (o : Options) (t : Definition) (fields : List Field) (k : Nat) (s : Snapshot),
      o.comments = true → t.readFields .postgres = .ok fields →
        s.ShowsComments .postgres t.table fields
            ((planNewTable .postgres o t.table fields t.comment).plan.comments.take k) →
          ∃ p, planLiveTable .postgres o t.table fields s = .ok p ∧
            ∀ st ∈ (planNewTable .postgres o t.table fields t.comment).plan.comments.drop k,
              st ∈ p.plan.comments := by
  intro hclaim
  have hshows : (interruptedUsers 0).ShowsComments .postgres "user" userFields [] :=
    showsComments_applyAll (k := 0) (declared_of_readFields readFields_describedUsers)
      (by decide +kernel) (some "people")
  obtain ⟨p, hp, hall⟩ :=
    hclaim {} describedUsers userFields 0 _ rfl readFields_describedUsers hshows
  have hplan : (planLiveTable .postgres {} "user" userFields (interruptedUsers 0)).toOption.map
      (·.plan.comments) = some [.commentColumn "user" "email" "mail"] := by
    decide +kernel
  rw [show planLiveTable .postgres {} "user" userFields (interruptedUsers 0) = .ok p from hp]
    at hplan
  have hcomments : p.plan.comments = [.commentColumn "user" "email" "mail"] :=
    Option.some.inj hplan
  have htable : Statement.commentTable "user" "people" ∈ p.plan.comments :=
    hall _ (by decide +kernel)
  rw [hcomments] at htable
  simp at htable

end Conform

/-
**No two statements of a plan have the same aim.**

Every statement gives some columns, indexes or the table some of their properties.  In a plan no
property is given twice: a column that is stated again gets no default of its own, the fields have
different keys, and the names of their indexes differ.

Main definitions:

* `Aim` — one property of a column, an index, or the table;
* `Statement.aims` — **what a statement is for**.

Main results:

* `Statement.key?_of_mem_aims` — the aims of a statement about a column are about this column;
* `aims_nodup_of_draftField`, `aims_nodup_of_draftFields` — no aim of a field, or of many, has two
  statements;
* `aims_nodup_of_planLiveTable`, `aims_nodup_planNewTable` — **nor has any aim of a plan**.
-/

import Conform.Proofs.Plan.Convergence
import Mathlib.Data.List.Nodup

set_option relaxedAutoImplicit false
set_option autoImplicit false

namespace Conform

/-! ### What statements are for -/

/-- **What a statement is for**: one property of a column, an index, or the table. -/
inductive Aim
  | table
  | tableComment
  | column (key : String)
  | type (key : String)
  | default (key : String)
  | comment (key : String)
  | index (name : String)
  deriving DecidableEq, Repr

/-- The aims of a statement that makes a column. -/
def Aim.ofColumn (key : String) : List Aim := [.column key, .type key, .default key]

/-- **The aims of a statement.**  A column that is stated again gets its type and its default. -/
def Statement.aims : Statement → List Aim
  | createTable _ columns _ =>
      .table :: (reservedKeys ++ columns.map (·.key)).flatMap Aim.ofColumn
  | alterTable _ (.addColumn c) => Aim.ofColumn c.key
  | alterTable _ (.modifyColumn c) => [.type c.key, .default c.key]
  | alterTable _ (.alterType key _) => [.type key]
  | alterTable _ (.alterDefault key _) => [.default key]
  | createIndex index _ _ | dropIndex index _ => [.index index]
  | commentTable _ _ => [.tableComment]
  | commentColumn _ key _ => [.comment key]

/-- The column that an aim is about. -/
def Aim.key? : Aim → Option String
  | column key | type key | default key | comment key => some key
  | table | tableComment | index _ => none

theorem Aim.key?_of_mem_ofColumn {key : String} {a : Aim} (h : a ∈ Aim.ofColumn key) :
    a.key? = some key := by
  simp only [ofColumn, List.mem_cons, List.not_mem_nil, or_false] at h
  rcases h with rfl | rfl | rfl <;> rfl

theorem Aim.nodup_ofColumn (key : String) : (Aim.ofColumn key).Nodup := by
  simp [ofColumn]

/-- The aims of a statement about a column are about this column. -/
theorem Statement.key?_of_mem_aims {st : Statement} {key : String} (h : st.column? = some key)
    {a : Aim} (ha : a ∈ st.aims) : a.key? = some key := by
  cases st with
  | alterTable _ clause =>
      obtain rfl : clause.key = key := Option.some.inj h
      cases clause with
      | addColumn c => exact Aim.key?_of_mem_ofColumn ha
      | modifyColumn c =>
          simp only [aims, List.mem_cons, List.not_mem_nil, or_false] at ha
          rcases ha with rfl | rfl <;> rfl
      | alterType k _ =>
          rw [List.mem_singleton.1 ha]
          rfl
      | alterDefault k _ =>
          rw [List.mem_singleton.1 ha]
          rfl
  | commentColumn _ k _ =>
      rw [List.mem_singleton.1 ha]
      exact h
  | createTable _ _ _ | createIndex _ _ _ | dropIndex _ _ | commentTable _ _ => cases h

variable {d : Dialect} {o : Options} {table : String} {s : Snapshot}

/-! ### Existing tables -/

theorem aims_nodup_of_missing (c : Column) :
    (((draftMissing d o table c).statements table).flatMap Statement.aims).Nodup := by
  unfold draftMissing labelStatement? Draft.statements
  split
  · split <;> simp [Statement.aims, Aim.ofColumn]
  · simp [Statement.aims, Aim.ofColumn]

theorem aims_of_retype? (table : String) {c : Column} {k : Clause}
    (h : Clause.retype? d c = some k) :
    (Statement.alterTable table k).aims =
      .type c.key :: if d.restatesDefault then [.default c.key] else [] := by
  cases d with
  | mysql => cases h; rfl
  | postgres => cases h; rfl
  | sqlite => cases h

/-- A default that is stated again with its column has no clause of its own. -/
theorem clauses_default_of_restated {shape : ShapeStep} {live : LiveColumn} {c : Column}
    (h : (shape.alters && d.restatesDefault) = true) :
    (defaultStep d shape live c).clauses = [] := by
  unfold defaultStep
  rw [if_pos h]
  split <;> rfl

/-- The clauses of a review give a column its type once, and its default once. -/
theorem aims_clauses_review (table : String) (allowShrink : Bool) (live : LiveColumn)
    (c : Column) :
    List.Sublist ((((shapeStep d allowShrink live c).clauses ++
        (defaultStep d (shapeStep d allowShrink live c) live c).clauses).map
          (Statement.alterTable table)).flatMap Statement.aims) [.type c.key, .default c.key] := by
  have hdefault : ∀ shape, List.Sublist (((defaultStep d shape live c).clauses.map
      (Statement.alterTable table)).flatMap Statement.aims) [.default c.key] := by
    intro shape
    cases hstep : defaultStep d shape live c with
    | alter k =>
        rw [Clause.eq_of_redefault? (redefault?_of_defaultStep hstep)]
        exact List.Sublist.refl _
    | keep | restated | unavailable | skipUnsupported => exact List.nil_sublist _
  cases hshape : shapeStep d allowShrink live c with
  | alter k =>
      -- a dialect that states the whole column again has no clause for the default
      have haims := aims_of_retype? table (retype?_of_shapeStep hshape)
      cases hrestates : d.restatesDefault with
      | true =>
          rw [clauses_default_of_restated (by simp [ShapeStep.alters, hrestates])]
          simp [ShapeStep.clauses, haims, hrestates]
      | false =>
          simpa [ShapeStep.clauses, haims, hrestates] using hdefault (.alter k)
  | keep | skipShrink _ _ | skipUnsupported => exact (hdefault _).cons _

theorem aims_nodup_of_review (live : LiveColumn) (c : Column) :
    ((((review d o live c).draft table c.key).statements table).flatMap Statement.aims).Nodup := by
  have hcomment : List.Sublist ((((commentChange? (o.statesComments d) live c).map
      (·.wanted)).map (Statement.commentColumn table c.key)).toList.flatMap Statement.aims)
        [.comment c.key] := by
    cases commentChange? (o.statesComments d) live c with
    | none => exact List.nil_sublist _
    | some ch => exact List.Sublist.refl _
  have hall := (aims_clauses_review (d := d) table o.allowShrink live c).append hcomment
  simp only [draft_review, Draft.statements, List.append_nil, List.flatMap_append]
  exact hall.nodup (by simp)

theorem aims_nodup_of_draftField {f : Field} {a : Draft} (h : draftField d o table s f = .ok a) :
    ((a.statements table).flatMap Statement.aims).Nodup := by
  cases hlive : s.columns[f.key]? with
  | none =>
      rw [draftField_of_none hlive] at h
      cases h
      exact aims_nodup_of_missing _
  | some live =>
      rw [draftField_of_some hlive] at h
      split at h
      · cases h
      · cases h
        exact aims_nodup_of_review live (f.column d)

theorem Draft.statements_append_perm (a b : Draft) :
    ((a ++ b).statements table).Perm (a.statements table ++ b.statements table) := by
  rw [List.perm_iff_count]
  intro st
  simp only [Draft.statements, Draft.append_def, List.map_append, List.count_append]
  omega

theorem aims_nodup_of_draftFields {fields : List Field} (hfields : Declared d fields) {a : Draft}
    (h : draftFields d o table s fields = .ok a) :
    ((a.statements table).flatMap Statement.aims).Nodup := by
  induction fields generalizing a with
  | nil => cases h; exact List.nodup_nil
  | cons f fs ih =>
      obtain ⟨b, c, hfirst, hrest, rfl⟩ := draftFields_cons_eq_ok.1 h
      rw [((Draft.statements_append_perm b c).flatMap_right _).nodup_iff, List.flatMap_append,
        List.nodup_append]
      refine ⟨aims_nodup_of_draftField hfirst, ih hfields.tail hrest, ?_⟩
      rintro aim haim _ haim' rfl
      -- the first field and a later one have different keys
      obtain ⟨st, hst, haim⟩ := List.mem_flatMap.1 haim
      obtain ⟨st', hst', haim'⟩ := List.mem_flatMap.1 haim'
      obtain ⟨g, hg, b', hb', hst'⟩ := (mem_statements_draftFields hrest).1 hst'
      have hkey := Statement.key?_of_mem_aims (column?_of_draftField hfirst hst) haim
      have hkey' := Statement.key?_of_mem_aims (column?_of_draftField hb' hst') haim'
      exact hfields.key_ne hg (Option.some.inj (hkey'.symm.trans hkey))

theorem aims_changes (table : String) (changes : List IndexChange) :
    (changes.map (·.statement table)).flatMap Statement.aims =
      (changes.map (·.index)).map Aim.index := by
  induction changes with
  | nil => rfl
  | cons a changes ih =>
      obtain ⟨verb, index, key⟩ := a
      rw [List.map_cons, List.flatMap_cons, ih]
      cases verb <;> rfl

theorem aims_changes_nodup {changes : List IndexChange} (h : (changes.map (·.index)).Nodup) :
    ((changes.map (·.statement table)).flatMap Statement.aims).Nodup := by
  rw [aims_changes]
  exact h.map fun _ _ e => Aim.index.inj e

/-- **No aim has two statements in a plan for an existing table.** -/
theorem aims_nodup_of_planLiveTable {fields : List Field} (hfields : Declared d fields)
    {p : Planned} (h : planLiveTable d o table fields s = .ok p) :
    (p.plan.statements.flatMap Statement.aims).Nodup := by
  obtain ⟨a, hdraft, rfl⟩ := planLiveTable_eq_ok_iff.1 h
  have hperm : List.Perm
      (a.planned table (.ofChanges (indexChanges table s
        (fields.map (·.column d))))).plan.statements
      (a.statements table ++
        (indexChanges table s (fields.map (·.column d))).map (·.statement table)) := by
    rw [List.perm_iff_count]
    intro st
    simp only [statements_planned, Draft.statements, List.count_append]
    omega
  rw [(hperm.flatMap_right _).nodup_iff, List.flatMap_append, List.nodup_append]
  refine ⟨aims_nodup_of_draftFields hfields hdraft,
    aims_changes_nodup (indexChanges_nodup hfields), ?_⟩
  rintro aim haim _ haim' rfl
  -- the fields are about columns and the index changes are not
  obtain ⟨st, hst, haim⟩ := List.mem_flatMap.1 haim
  obtain ⟨f, _, b, hb, hst⟩ := (mem_statements_draftFields hdraft).1 hst
  have hkey := Statement.key?_of_mem_aims (column?_of_draftField hb hst) haim
  rw [aims_changes] at haim'
  obtain ⟨name, _, rfl⟩ := List.mem_map.1 haim'
  cases hkey

/-! ### New tables -/

/-- The columns of a new table have each aim once. -/
theorem aims_createTable_nodup (table : String) {columns : List Column} (comment : Option String)
    (h : (reservedKeys ++ columns.map (·.key)).Nodup) :
    (Statement.createTable table columns comment).aims.Nodup := by
  refine List.nodup_cons.2 ⟨fun hmem => ?_, List.nodup_flatMap.2 ⟨fun key _ =>
    Aim.nodup_ofColumn key, h.imp fun hne aim haim haim' => ?_⟩⟩
  · -- the table itself is no aim of a column
    obtain ⟨key, _, haim⟩ := List.mem_flatMap.1 hmem
    cases Aim.key?_of_mem_ofColumn haim
  · exact hne (Option.some.inj
      ((Aim.key?_of_mem_ofColumn haim).symm.trans (Aim.key?_of_mem_ofColumn haim')))

theorem aims_createComments (table : String) (columns : List Column) (comment : Option String) :
    List.Sublist ((createComments table columns comment).flatMap Statement.aims)
      (.tableComment :: (reservedKeys ++ columns.map (·.key)).map Aim.comment) := by
  have htable : List.Sublist ((comment.map (Statement.commentTable table)).toList.flatMap
      Statement.aims) [.tableComment] := by
    cases comment with
    | none => exact List.nil_sublist _
    | some text => exact List.Sublist.refl _
  have hlabels : List.Sublist ((columns.filterMap (labelStatement? table)).flatMap Statement.aims)
      ((columns.map (·.key)).map Aim.comment) := by
    induction columns with
    | nil => exact List.Sublist.refl _
    | cons c columns ih =>
        rw [List.filterMap_cons]
        unfold labelStatement? at ih ⊢
        split
        next hnone => exact ih.cons _
        next st hsome =>
          split at hsome
          · cases hsome
          · cases hsome
            exact ih.cons_cons _
  rw [createComments, List.flatMap_append, List.flatMap_append, List.map_append]
  exact (htable.append (List.Sublist.refl _)).append hlabels

/-- **No aim has two statements in the plan for a new table.** -/
theorem aims_nodup_planNewTable (table : String) {fields : List Field}
    (hfields : Declared d fields) (comment : Option String) :
    ((planNewTable d o table fields comment).plan.statements.flatMap Statement.aims).Nodup := by
  have hkeys := newColumns_nodup hfields
  have hcomments : List.Sublist ((if o.statesComments d then
      createComments table (fields.map (·.column d)) comment else []).flatMap Statement.aims)
      (.tableComment :: (reservedKeys ++ (fields.map (·.column d)).map (·.key)).map
        Aim.comment) := by
    split
    · exact aims_createComments table _ comment
    · exact List.nil_sublist _
  have hindexes := createIndexes_nodup table hfields
  have hmade := aims_createTable_nodup table comment hkeys
  -- the table with its columns, the comments and the indexes have aims of different sorts
  have hcolumns : ∀ aim ∈ (Statement.createTable table (fields.map (·.column d)) comment).aims,
      aim ≠ .tableComment ∧ (∀ key, aim ≠ .comment key) ∧ ∀ name, aim ≠ .index name := by
    intro aim haim
    simp only [Statement.aims, Aim.ofColumn, List.mem_cons, List.mem_flatMap, List.not_mem_nil,
      or_false] at haim
    rcases haim with rfl | ⟨key, _, rfl | rfl | rfl⟩ <;> simp
  have hsaid := fun aim haim => List.mem_cons.1 (hcomments.subset (a := aim) haim)
  rw [statements_planNewTable, List.flatMap_cons, List.flatMap_append, aims_changes,
    List.nodup_append, List.nodup_append]
  refine ⟨hmade, ⟨hcomments.nodup ?_, hindexes.map fun _ _ e => Aim.index.inj e, ?_⟩, ?_⟩
  · exact List.nodup_cons.2 ⟨by simp, hkeys.map fun _ _ e => Aim.comment.inj e⟩
  · rintro aim haim _ haim' rfl
    obtain ⟨name, _, rfl⟩ := List.mem_map.1 haim'
    rcases hsaid _ haim with hcomment | hcomment
    · cases hcomment
    · obtain ⟨key, _, hkey⟩ := List.mem_map.1 hcomment
      cases hkey
  · rintro aim haim _ haim' rfl
    obtain ⟨htable, hcomment, hindex⟩ := hcolumns _ haim
    rcases List.mem_append.1 haim' with haim' | haim'
    · rcases hsaid _ haim' with rfl | hkey
      · exact htable rfl
      · obtain ⟨key, _, rfl⟩ := List.mem_map.1 hkey
        exact hcomment key rfl
    · obtain ⟨name, _, rfl⟩ := List.mem_map.1 haim'
      exact hindex name rfl

end Conform

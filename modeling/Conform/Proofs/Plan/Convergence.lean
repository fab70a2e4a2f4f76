/-
**Planning again changes nothing.**

A plan is applied to the snapshot for which it was made.  For the snapshot that results the same
fields have a plan that changes nothing, in every dialect and under all switches: what was altered
is as wanted, what was skipped is skipped again, and the indexes that were to come and go have come
and gone.  The same holds of a table that was just made.

Main definitions:

* `Reporting.plain` — a database that reports types, lengths and values as they were stated.

Main results:

* `replan_live`, `replan_new` — planning again, whatever database shows its new columns;
* `replan_unchanged` — **planning again after a plan that was applied changes nothing**.
-/

import Conform.Proofs.Live.Value
import Conform.Proofs.Plan.Indexes
import Conform.Proofs.Plan.Settling

set_option relaxedAutoImplicit false
set_option autoImplicit false

namespace Conform

variable {d : Dialect} {o : Options} {table : String} {s : Snapshot} {r : Reporting}

/-! ### The statements of a plan by what they are about -/

/-- The statements of a contribution make no table and touch no index. -/
theorem makesTable_of_draftFields {fields : List Field} {a : Draft}
    (h : draftFields d o table s fields = .ok a) :
    ∀ st ∈ a.statements table, st.makesTable = false ∧ st.index? = none := by
  intro st hst
  obtain ⟨f, _, b, hb, hst⟩ := (mem_statements_draftFields h).1 hst
  have hcolumn := column?_of_draftField hb hst
  cases st <;> simp_all [Statement.column?, Statement.makesTable, Statement.index?]

theorem concerns_statement (table key : String) (a : IndexChange) :
    (a.statement table).concerns key = false ∧ (a.statement table).makesTable = false := by
  obtain ⟨verb, index, column⟩ := a
  cases verb <;> exact ⟨rfl, rfl⟩

theorem filter_concerns_changes (table key : String) (changes : List IndexChange) :
    (changes.map (·.statement table)).filter (·.concerns key) = [] := by
  refine List.filter_eq_nil_iff.2 fun st hst => ?_
  obtain ⟨a, _, rfl⟩ := List.mem_map.1 hst
  rw [(concerns_statement table key a).1]
  exact Bool.false_ne_true

theorem indexes_applyAll_congr {s' : Snapshot} (table : String) (changes : List IndexChange)
    (h : s'.indexes = s.indexes) :
    (s'.applyAll r (changes.map (·.statement table))).indexes =
      (s.applyAll r (changes.map (·.statement table))).indexes := by
  induction changes generalizing s s' with
  | nil => exact h
  | cons a changes ih =>
      rw [List.map_cons, Snapshot.applyAll_cons, Snapshot.applyAll_cons]
      refine ih ?_
      obtain ⟨verb, index, key⟩ := a
      cases verb
      · exact congrArg (·.insert index [key]) h
      · exact congrArg (·.erase index) h

/-- **A column after a plan is the column after the statements of the fields about it.** -/
theorem getElem?_columns_planned {fields : List Field} {a : Draft}
    (h : draftFields d o table s fields = .ok a) (changes : List IndexChange) (key : String) :
    (s.applyAll r (a.planned table (.ofChanges changes)).plan.statements).columns[key]? =
      ((a.statements table).filter (·.concerns key)).foldl r.effect s.columns[key]? := by
  have hgroups := makesTable_of_draftFields h
  rw [Draft.statements] at hgroups ⊢
  rw [statements_planned, Snapshot.getElem?_columns_applyAll]
  · rw [List.filter_append, List.filter_append, filter_concerns_changes, List.append_nil,
      ← List.filter_append]
  · intro st hst
    rcases List.mem_append.1 hst with hst | hst
    · rcases List.mem_append.1 hst with hst | hst
      · exact (hgroups st (List.mem_append_left _ hst)).1
      · obtain ⟨b, _, rfl⟩ := List.mem_map.1 hst
        exact (concerns_statement table key b).2
    · exact (hgroups st (List.mem_append_right _ hst)).1

/-- **The indexes after a plan are those after its index changes.** -/
theorem indexes_planned {fields : List Field} {a : Draft}
    (h : draftFields d o table s fields = .ok a) (changes : List IndexChange) :
    (s.applyAll r (a.planned table (.ofChanges changes)).plan.statements).indexes =
      (s.applyAll r (changes.map (·.statement table))).indexes := by
  have hgroups := makesTable_of_draftFields h
  rw [Draft.statements] at hgroups
  rw [statements_planned, Snapshot.applyAll_append, Snapshot.applyAll_append,
    Snapshot.indexes_applyAll_of_index? fun st hst => hgroups st (List.mem_append_right _ hst)]
  exact indexes_applyAll_congr table changes
    (Snapshot.indexes_applyAll_of_index? fun st hst => hgroups st (List.mem_append_left _ hst))

/-! ### Existing tables -/

/-- **After a plan the column of every field is there and settled.** -/
theorem settled_of_planLiveTable {fields : List Field} (hfields : Declared d fields)
    (hshows : ∀ f ∈ fields, r.Shows (f.column d)) {p : Planned}
    (h : planLiveTable d o table fields s = .ok p) {f : Field} (hf : f ∈ fields) :
    ∃ live, (s.applyAll r p.plan.statements).columns[f.key]? = some live ∧
      IsSettled d o live (f.column d) := by
  obtain ⟨a, hdraft, rfl⟩ := planLiveTable_eq_ok_iff.1 h
  obtain ⟨b, hb⟩ := draftField_of_draftFields hdraft hf
  rw [getElem?_columns_planned hdraft, filter_statements_of_mem hfields hdraft hf hb]
  exact settled_of_draftField (hshows f hf) hb

/-- A plan leaves the columns that no field has the key of. -/
theorem getElem?_columns_of_other {fields : List Field} {p : Planned}
    (h : planLiveTable d o table fields s = .ok p) {key : String}
    (hkey : ∀ f ∈ fields, f.key ≠ key) :
    (s.applyAll r p.plan.statements).columns[key]? = s.columns[key]? := by
  obtain ⟨a, hdraft, rfl⟩ := planLiveTable_eq_ok_iff.1 h
  have hnone : (a.statements table).filter (·.concerns key) = [] := by
    refine List.filter_eq_nil_iff.2 fun st hst => ?_
    rw [concerns_eq_false_of_draftFields hdraft hkey st hst]
    exact Bool.false_ne_true
  rw [getElem?_columns_planned hdraft, hnone, List.foldl_nil]

/-- **Planning again for an existing table changes nothing.** -/
theorem replan_live {fields : List Field} (hfields : Declared d fields)
    (hshows : ∀ f ∈ fields, r.Shows (f.column d)) {p : Planned}
    (h : planLiveTable d o table fields s = .ok p) :
    ∃ p', planLiveTable d o table fields (s.applyAll r p.plan.statements) = .ok p' ∧
      p'.IsIdle := by
  refine planLiveTable_of_settled (fun f hf => settled_of_planLiveTable hfields hshows h hf) ?_
  have hsystem : ∀ key ∈ systemIndexKeys,
      (s.applyAll r p.plan.statements).columns.contains key = s.columns.contains key := by
    intro key hkey
    -- no field has the key of a system column
    have hother : ∀ f ∈ fields, f.key ≠ key := fun f hf e =>
      hfields.free f hf (e ▸ systemIndexKeys_subset hkey)
    rw [contains_iff, contains_iff, getElem?_columns_of_other h hother]
  obtain ⟨a, hdraft, rfl⟩ := planLiveTable_eq_ok_iff.1 h
  exact indexChanges_of_applied hfields hsystem (indexes_planned hdraft _)

/-! ### New tables -/

theorem newTable_nodup {fields : List Field} (h : Declared d fields) :
    (reservedKeys ++ fields.map (·.key)).Nodup := by
  rw [List.nodup_append]
  refine ⟨by decide, h.distinct, fun key hkey key' hkey' e => ?_⟩
  obtain ⟨f, hf, rfl⟩ := List.mem_map.1 hkey'
  exact h.free f hf (e ▸ hkey)

theorem newColumns_nodup {fields : List Field} (h : Declared d fields) :
    (reservedKeys ++ (fields.map (·.column d)).map (·.key)).Nodup :=
  keys_columns d fields ▸ newTable_nodup h

theorem getElem?_newTable {fields : List Field} (h : Declared d fields) {f : Field}
    (hf : f ∈ fields) :
    (r.newTable (fields.map (·.column d)))[f.key]? = some (r.column (f.column d)) := by
  refine Std.ExtTreeMap.getElem?_ofList_of_mem (k := f.key) Std.ReflCmp.compare_self ?_ ?_
  · have hkeys : ((systemColumns.map fun c => (c.key, r.system c)) ++
        (fields.map (·.column d)).map fun c => (c.key, r.column c)).map (·.1) =
        reservedKeys ++ fields.map (·.key) := by
      simp [← systemColumns_keys, Function.comp_def]
    have hdistinct := newTable_nodup h
    rw [← hkeys] at hdistinct
    refine (List.pairwise_map.1 hdistinct).imp fun hne e => hne ?_
    exact Std.LawfulEqCmp.eq_of_compare e
  · exact List.mem_append_right _
      (List.mem_map.2 ⟨f.column d, List.mem_map.2 ⟨f, hf, rfl⟩, rfl⟩)

theorem filter_labels {fields : List Field} (h : Declared d fields) {f : Field} (hf : f ∈ fields) :
    ((fields.map (·.column d)).filterMap (labelStatement? table)).filter (·.concerns f.key) =
      (labelStatement? table (f.column d)).toList := by
  have hother : ∀ g : Field, g.key ≠ f.key →
      (labelStatement? table (g.column d)).toList.filter (·.concerns f.key) = [] := by
    intro g hne
    unfold labelStatement?
    split
    · rfl
    · simp [Statement.concerns, Statement.column?, hne]
  have hcons : ∀ (c : Column) (cs : List Column), (c :: cs).filterMap (labelStatement? table) =
      (labelStatement? table c).toList ++ cs.filterMap (labelStatement? table) := by
    intro c cs
    rw [List.filterMap_cons]
    cases labelStatement? table c <;> rfl
  have hself : (labelStatement? table (f.column d)).toList.filter (·.concerns f.key) =
      (labelStatement? table (f.column d)).toList := by
    unfold labelStatement?
    split
    · rfl
    · simp [Statement.concerns, Statement.column?]
  induction fields with
  | nil => cases hf
  | cons first rest ih =>
      rw [List.map_cons, hcons, List.filter_append]
      rcases List.mem_cons.1 hf with rfl | hf'
      · have hrest : ((rest.map (·.column d)).filterMap (labelStatement? table)).filter
            (·.concerns f.key) = [] := by
          refine List.filter_eq_nil_iff.2 fun st hst => ?_
          obtain ⟨c, hc, hlabel⟩ := List.mem_filterMap.1 hst
          obtain ⟨g, hg, rfl⟩ := List.mem_map.1 hc
          have hnil := hother g (h.key_ne hg)
          rw [hlabel] at hnil
          exact List.filter_eq_nil_iff.1 hnil st (List.mem_singleton.2 rfl)
        rw [hself, hrest, List.append_nil]
      · rw [hother first fun e => h.key_ne hf' e.symm, List.nil_append, ih h.tail hf']

/-- The comments of a new table on a declared column: its label. -/
theorem filter_createComments {fields : List Field} (h : Declared d fields) {f : Field}
    (hf : f ∈ fields) (comment : Option String) :
    (createComments table (fields.map (·.column d)) comment).filter (·.concerns f.key) =
      (labelStatement? table (f.column d)).toList := by
  have htable : (comment.map (Statement.commentTable table)).toList.filter (·.concerns f.key) =
      [] := by
    cases comment <;> rfl
  have hsystem : (systemColumns.map fun c => Statement.commentColumn table c.key c.label).filter
      (·.concerns f.key) = [] := by
    refine List.filter_eq_nil_iff.2 fun st hst => ?_
    obtain ⟨c, _, rfl⟩ := List.mem_map.1 hst
    simpa [Statement.concerns, Statement.column?] using (h.key_ne_system hf c).symm
  rw [createComments, List.filter_append, List.filter_append, htable, hsystem, filter_labels h hf]
  rfl

/-- **The comments of a new table**: its own, and the labels of its columns. -/
theorem mem_createComments {columns : List Column} {comment : Option String} {st : Statement}
    (h : st ∈ createComments table columns comment) :
    (∃ text, comment = some text ∧ st = .commentTable table text) ∨
      (∃ c ∈ systemColumns, st = .commentColumn table c.key c.label) ∨
      ∃ c ∈ columns, st = .commentColumn table c.key c.label := by
  simp only [createComments, List.mem_append, Option.mem_toList, Option.map_eq_some_iff,
    List.mem_map, List.mem_filterMap] at h
  rcases h with (⟨text, hcomment, rfl⟩ | ⟨c, hc, rfl⟩) | ⟨c, hc, hlabel⟩
  · exact .inl ⟨text, hcomment, rfl⟩
  · exact .inr (.inl ⟨c, hc, rfl⟩)
  · unfold labelStatement? at hlabel
    split at hlabel
    · cases hlabel
    · cases hlabel
      exact .inr (.inr ⟨c, hc, rfl⟩)

theorem index?_createComments {columns : List Column} {comment : Option String} :
    ∀ st ∈ createComments table columns comment, st.makesTable = false ∧ st.index? = none := by
  intro st hst
  rcases mem_createComments hst with ⟨text, _, rfl⟩ | ⟨c, _, rfl⟩ | ⟨c, _, rfl⟩ <;> exact ⟨rfl, rfl⟩

theorem statements_planNewTable (fields : List Field) (comment : Option String) :
    (planNewTable d o table fields comment).plan.statements =
      .createTable table (fields.map (·.column d)) comment ::
        ((if o.statesComments d then createComments table (fields.map (·.column d)) comment
            else []) ++
          ((createIndexKeys (fields.map (·.column d))).map (createIndexOf table)).map
            (·.statement table)) := by
  rw [planNewTable_eq]
  rfl

/-- The comments of a new table, if they count, make no table and touch no index. -/
theorem index?_newComments (table : String) (columns : List Column) (comment : Option String) :
    ∀ st ∈ (if o.statesComments d then createComments table columns comment else []),
      st.makesTable = false ∧ st.index? = none := by
  intro st hst
  split at hst
  · exact index?_createComments st hst
  · cases hst

/-- **A declared column of a new table is settled.** -/
theorem settled_of_planNewTable {fields : List Field} (hfields : Declared d fields)
    (hshows : ∀ f ∈ fields, r.Shows (f.column d)) (comment : Option String) {f : Field}
    (hf : f ∈ fields) :
    ∃ live, (s.applyAll r (planNewTable d o table fields comment).plan.statements).columns[f.key]? =
        some live ∧ IsSettled d o live (f.column d) := by
  refine ⟨addedColumn r d o (f.column d), ?_, isSettled_addedColumn (hshows f hf)⟩
  have hcomments : (if o.statesComments d then
      createComments table (fields.map (·.column d)) comment else []).filter (·.concerns f.key) =
      if o.statesComments d then (labelStatement? table (f.column d)).toList else [] := by
    split
    · exact filter_createComments hfields hf comment
    · rfl
  have hnew : (s.apply r (.createTable table (fields.map (·.column d)) comment)).columns[f.key]? =
      some (r.column (f.column d)) := getElem?_newTable hfields hf
  rw [statements_planNewTable, Snapshot.applyAll_cons, Snapshot.getElem?_columns_applyAll, hnew,
    List.filter_append, filter_concerns_changes, List.append_nil, hcomments]
  · exact foldl_effect_missing table _
  · intro st hst
    rcases List.mem_append.1 hst with hst | hst
    · exact (index?_newComments _ _ _ st hst).1
    · obtain ⟨a, _, rfl⟩ := List.mem_map.1 hst
      exact (concerns_statement table f.key a).2

theorem createIndexKeys_nodup {fields : List Field} (h : Declared d fields) :
    (createIndexKeys (fields.map (·.column d))).Nodup :=
  (indexKeys_nodup h).sublist
    ((List.Sublist.refl _).append (List.filter_sublist.map Column.key))

/-- No two indexes of a new table have the same name. -/
theorem createIndexes_nodup (table : String) {fields : List Field} (h : Declared d fields) :
    (((createIndexKeys (fields.map (·.column d))).map (createIndexOf table)).map
      (·.index)).Nodup := by
  refine indexes_nodup_of_keys table (fun a ha => ?_) ?_
  · obtain ⟨key, _, rfl⟩ := List.mem_map.1 ha
    rfl
  · rw [List.map_map]
    exact (List.map_id _).symm ▸ createIndexKeys_nodup h

/-- **The indexes of a new table**: exactly those of the keys that get one. -/
theorem indexes_planNewTable {fields : List Field} (h : Declared d fields)
    (comment : Option String) (key : String) :
    (s.applyAll r (planNewTable d o table fields comment).plan.statements).indexes[indexName
        table key]? =
      if key ∈ createIndexKeys (fields.map (·.column d)) then some [key] else none := by
  have hindexes := indexes_applyAll_congr (r := r) table
    ((createIndexKeys (fields.map (·.column d))).map (createIndexOf table))
    (Snapshot.indexes_applyAll_of_index? (r := r)
      (s := s.apply r (.createTable table (fields.map (·.column d)) comment))
      (index?_newComments (d := d) (o := o) table (fields.map (·.column d)) comment))
  rw [statements_planNewTable, Snapshot.applyAll_cons, Snapshot.applyAll_append, hindexes]
  by_cases hkey : key ∈ createIndexKeys (fields.map (·.column d))
  · rw [if_pos hkey]
    have hmem : createIndexOf table key ∈
        (createIndexKeys (fields.map (·.column d))).map (createIndexOf table) :=
      List.mem_map.2 ⟨key, hkey, rfl⟩
    exact Snapshot.getElem?_indexes_applyAll (createIndexes_nodup table h) hmem
  · rw [if_neg hkey, Snapshot.getElem?_indexes_of_not_mem]
    · exact Std.ExtTreeMap.getElem?_empty
    · intro a ha e
      obtain ⟨k, hk, rfl⟩ := List.mem_map.1 ha
      exact hkey (indexName_inj e ▸ hk)

/-- **Planning again for a new table changes nothing.** -/
theorem replan_new {fields : List Field} (hfields : Declared d fields)
    (hshows : ∀ f ∈ fields, r.Shows (f.column d)) (comment : Option String) :
    ∃ p', planLiveTable d o table fields
        (s.applyAll r (planNewTable d o table fields comment).plan.statements) = .ok p' ∧
      p'.IsIdle := by
  refine planLiveTable_of_settled (fun f hf => settled_of_planNewTable hfields hshows comment hf) ?_
  have hsystem : ∀ key ∈ systemIndexKeys, key ∈ createIndexKeys (fields.map (·.column d)) :=
    fun key hkey => List.mem_append_left _ hkey
  rw [indexChanges, List.append_eq_nil_iff]
  constructor
  · rw [systemIndexChanges, List.map_eq_nil_iff, List.filter_eq_nil_iff]
    intro key hkey
    have hthere : (s.applyAll r
        (planNewTable d o table fields comment).plan.statements).indexes.contains
          (indexName table key) = true := by
      rw [contains_iff, indexes_planNewTable hfields, if_pos (hsystem key hkey)]
      rfl
    rw [missesIndex_iff, hthere]
    exact fun h => Bool.noConfusion h.2
  · refine List.filterMap_eq_nil_iff.2 fun c hc => ?_
    obtain ⟨f, hf, rfl⟩ := List.mem_map.1 hc
    rw [fieldIndexChange?_eq_none_iff, Field.key_column, indexes_planNewTable hfields]
    refine ⟨fun hindexed => ?_, fun hunwanted => ?_⟩
    · have hmem : f.key ∈ createIndexKeys (fields.map (·.column d)) :=
        List.mem_append_right _ (List.mem_map.2 ⟨f.column d, List.mem_filter.2 ⟨hc, hindexed⟩, rfl⟩)
      rw [if_pos hmem]
      exact Option.some_ne_none _
    · have hnot : f.key ∉ createIndexKeys (fields.map (·.column d)) := by
        intro hmem
        rcases List.mem_append.1 hmem with hmem | hmem
        · exact hfields.free f hf (systemIndexKeys_subset hmem)
        · obtain ⟨c, hc, hkey⟩ := List.mem_map.1 hmem
          obtain ⟨hc, hindexed⟩ := List.mem_filter.1 hc
          obtain ⟨g, hg, rfl⟩ := List.mem_map.1 hc
          rw [hfields.eq_of_key hg hf hkey, hunwanted] at hindexed
          cases hindexed
      rw [if_neg hnot]
      exact (Option.some_ne_none _).symm

/-! ### A database that reports what it was told -/

/-- **A database that reports types, lengths and values as they were stated**, and the system
columns in any way. -/
def Reporting.plain (system : SystemColumn → LiveColumn) : Reporting :=
  { type := fun t => t.storage.keyword, length := fun t => t.length, default := Default.value?,
    system := system }

theorem Reporting.plain_shows (system : SystemColumn → LiveColumn) (c : Column) :
    (Reporting.plain system).Shows c :=
  ⟨beq_self_eq_true _, fun _ h => h, Default.agrees_value? c.default⟩

/-- **Planning again after a plan that was applied changes nothing**, for a table that existed and
for one that was made. -/
theorem replan_unchanged (d : Dialect) (o : Options) (system : SystemColumn → LiveColumn)
    (t : Definition) {fields : List Field} (hread : t.readFields d = .ok fields) :
    (∀ (s : Snapshot) (p : Planned), planLiveTable d o t.table fields s = .ok p →
      ∃ p', planLiveTable d o t.table fields
          (s.applyAll (.plain system) p.plan.statements) = .ok p' ∧ p'.plan.changed = false) ∧
    ∀ s : Snapshot, ∃ p', planLiveTable d o t.table fields
        (s.applyAll (.plain system)
          (planNewTable d o t.table fields t.comment).plan.statements) = .ok p' ∧
      p'.plan.changed = false := by
  have hfields := declared_of_readFields hread
  have hshows : ∀ f ∈ fields, (Reporting.plain system).Shows (f.column d) :=
    fun f _ => Reporting.plain_shows system _
  refine ⟨fun s p hplan => ?_, fun s => ?_⟩
  · obtain ⟨p', hp', hidle⟩ := replan_live hfields hshows hplan
    exact ⟨p', hp', hidle.changed⟩
  · obtain ⟨p', hp', hidle⟩ := replan_new hfields hshows t.comment
    exact ⟨p', hp', hidle.changed⟩

/-- A table of users whose addresses are too short, have a default and no comment, and are
indexed. -/
def staleUsers : Snapshot :=
  let address : LiveColumn := ⟨"character varying", some 10, true, some "x", none⟩
  ⟨Std.ExtTreeMap.ofList [("email", address)],
    Std.ExtTreeMap.ofList [("idx_user_email", ["email"])]⟩

/-- The plan that brings it up to date. -/
def refreshUsers : Planned :=
  { plan :=
      { table := "user", changed := true
        modifies := [.alterType "email" ⟨.varchar, some 20⟩]
        defaults := [.alterDefault "email" .absent]
        indexes := [dropIndexOf "user" "email"]
        comments := [.commentColumn "user" "email" "mail"] }
    counters := { lengths := 1, defaults := 1, comments := 1, indexesDropped := 1 } }

/-- The system columns as they are reported by the first word of their type. -/
def firstWords (c : SystemColumn) : LiveColumn :=
  ⟨(c.keywords .postgres).headD "", none, false, none, some c.label⟩

/-- Once it is up to date it stays so. -/
theorem replan_unchanged_users :
    planLiveTable .postgres {} "user" userFields staleUsers = .ok refreshUsers ∧
      ∃ p', planLiveTable .postgres {} "user" userFields
        (staleUsers.applyAll (.plain firstWords) refreshUsers.plan.statements) = .ok p' ∧
          p'.plan.changed = false := by
  have hplan : planLiveTable .postgres {} users.table userFields staleUsers = .ok refreshUsers :=
    eq_ok_of_toOption (by decide +kernel)
  exact ⟨hplan, (replan_unchanged .postgres {} firstWords users (readFields_users .postgres)).1
    staleUsers refreshUsers hplan⟩

end Conform

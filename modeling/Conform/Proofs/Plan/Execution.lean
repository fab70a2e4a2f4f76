/-
**Every plan can be carried out in its order.**

A statement asks something of the table that it is sent to: a column that is added is not there yet,
one that is changed or commented on is there, an index is made once and dropped if it is there.  The
statements of a plan change the table while they are sent, so what each of them asks has to hold
when its turn comes.  It does: no two statements have the same aim, statements of different aims do
not get in each other's way, and columns are added before their indexes and comments.

Main definitions:

* `Statement.Fits` — what a statement asks of a table;
* `Executable`, `InOrder` — **that every statement fits when its turn comes**.

Main results:

* `executable_of_fits` — statements without a common aim that fit at the start can be sent in a row;
* `executable_planLiveTable`, `executable_planNewTable` — each statement of a plan fits at its turn;
* `inOrder_plan` — **every plan can be carried out in its order**.
-/

import Conform.Proofs.Plan.Aims
import Conform.Proofs.Plan.IndexNames

set_option relaxedAutoImplicit false
set_option autoImplicit false

namespace Conform

/-! ### What statements ask -/

/-- The table that a statement is sent to. -/
def Statement.table : Statement → String
  | createTable table _ _ | alterTable table _ | createIndex _ table _ | dropIndex _ table
  | commentTable table _ | commentColumn table _ _ => table

/-- What a statement asks of a table that is there. -/
def Statement.FitsLive (s : Snapshot) : Statement → Prop
  | createTable _ _ _ => False
  | alterTable _ (.addColumn c) => s.columns.contains c.key = false
  | alterTable _ clause => s.columns.contains clause.key = true
  | createIndex index _ key => s.indexes.contains index = false ∧ s.columns.contains key = true
  | dropIndex index _ => s.indexes.contains index = true
  | commentTable _ _ => True
  | commentColumn _ key _ => s.columns.contains key = true

/-- **What a statement asks of a table** that may be missing: a table is made where there is none,
and no two of its columns have the same key. -/
def Statement.Fits : Option Snapshot → Statement → Prop
  | none, createTable _ columns _ => (reservedKeys ++ columns.map (·.key)).Nodup
  | none, _ => False
  | some s, st => st.FitsLive s

/-! ### Execution -/

/-- The effect of a statement on a table that may be missing. -/
def Statement.send (r : Reporting) (now : Option Snapshot) (st : Statement) : Option Snapshot :=
  if st.makesTable then some (Snapshot.apply r ⟨∅, ∅⟩ st) else now.map (Snapshot.apply r · st)

/-- **That every statement fits when its turn comes.** -/
def Executable (r : Reporting) : Option Snapshot → List Statement → Prop
  | _, [] => True
  | now, st :: sts => st.Fits now ∧ Executable r (st.send r now) sts

variable {d : Dialect} {o : Options} {table : String} {s : Snapshot} {r : Reporting}

/-- **That statements can be carried out in their order** on a table that may be missing: they are
sent to the table, each fits when its turn comes, and no aim has two of them. -/
structure InOrder (r : Reporting) (table : String) (now : Option Snapshot)
    (sts : List Statement) : Prop where
  table : ∀ st ∈ sts, st.table = table
  executable : Executable r now sts
  once : (sts.flatMap Statement.aims).Nodup

theorem Statement.send_of_live {st : Statement} (h : st.makesTable = false) :
    st.send r (some s) = some (s.apply r st) := by
  rw [send, h]
  rfl

theorem executable_append {sts sts' : List Statement} (h : ∀ st ∈ sts, st.makesTable = false) :
    Executable r (some s) (sts ++ sts') ↔
      Executable r (some s) sts ∧ Executable r (some (s.applyAll r sts)) sts' := by
  induction sts generalizing s with
  | nil => exact (and_iff_right trivial).symm
  | cons st sts ih =>
      have hsend := Statement.send_of_live (s := s) (r := r) (h st (List.mem_cons_self ..))
      rw [List.cons_append, Executable, Executable, hsend, Snapshot.applyAll_cons,
        ih fun t ht => h t (List.mem_cons_of_mem _ ht), and_assoc]

/-! ### Statements without a common aim -/

namespace Snapshot

theorem isSome_effect (r : Reporting) (live : LiveColumn) (st : Statement) :
    (r.effect (some live) st).isSome = true := by
  cases st with
  | alterTable _ clause => cases clause <;> rfl
  | _ => rfl

/-- A column that is there stays. -/
theorem contains_columns_apply {st : Statement} (h : st.makesTable = false) {key : String}
    (hkey : s.columns.contains key = true) : (s.apply r st).columns.contains key = true := by
  rw [contains_iff] at hkey ⊢
  rw [getElem?_columns_apply h]
  obtain ⟨live, hlive⟩ := Option.isSome_iff_exists.1 hkey
  split
  · rw [hlive]
    exact isSome_effect r live st
  · exact hkey

/-- A column that is not there stays away, unless it is the aim of the statement. -/
theorem not_contains_columns_apply {st : Statement} (h : st.makesTable = false) {key : String}
    (haim : .column key ∉ st.aims) (hkey : s.columns.contains key = false) :
    (s.apply r st).columns.contains key = false := by
  rw [contains_iff, Option.isSome_eq_false_iff, Option.isNone_iff_eq_none] at hkey ⊢
  rw [getElem?_columns_apply h, hkey]
  split
  next hconcerns =>
    cases st with
    | alterTable _ clause =>
        cases clause with
        | addColumn c =>
            obtain rfl : c.key = key := by
              simpa [Statement.concerns, Statement.column?, Clause.key] using hconcerns
            exact absurd (List.mem_cons_self ..) haim
        | _ => rfl
    | _ => rfl
  · rfl

/-- An index stays as it is, unless it is the aim of the statement. -/
theorem getElem?_indexes_apply_of_aims {st : Statement} (h : st.makesTable = false) {name : String}
    (haim : .index name ∉ st.aims) : (s.apply r st).indexes[name]? = s.indexes[name]? := by
  cases st with
  | createTable _ _ _ => cases h
  | createIndex index table key =>
      have hne : index ≠ name := fun e => haim (List.mem_singleton.2 (congrArg Aim.index e.symm))
      exact (getElem?_indexes_apply table ⟨.create, index, key⟩ name).trans (if_neg hne)
  | dropIndex index table =>
      have hne : index ≠ name := fun e => haim (List.mem_singleton.2 (congrArg Aim.index e.symm))
      exact (getElem?_indexes_apply table ⟨.drop, index, ""⟩ name).trans (if_neg hne)
  | _ => rfl

end Snapshot

/-- **A statement still fits after another one without a common aim.** -/
theorem Statement.fitsLive_apply {st st' : Statement} (h : st.makesTable = false)
    (haims : ∀ a ∈ st.aims, a ∉ st'.aims) (hfits : st'.FitsLive s) :
    st'.FitsLive (s.apply r st) := by
  have hcontains : ∀ name, .index name ∈ st'.aims →
      (s.apply r st).indexes.contains name = s.indexes.contains name := by
    intro name hname
    rw [contains_iff, contains_iff,
      Snapshot.getElem?_indexes_apply_of_aims h fun haim => haims _ haim hname]
  cases st' with
  | createTable _ _ _ => exact hfits.elim
  | alterTable _ clause =>
      cases clause with
      | addColumn c =>
          exact Snapshot.not_contains_columns_apply h
            (fun haim => haims _ haim (List.mem_cons_self ..)) hfits
      | modifyColumn c => exact Snapshot.contains_columns_apply h hfits
      | alterType key type => exact Snapshot.contains_columns_apply h hfits
      | alterDefault key default => exact Snapshot.contains_columns_apply h hfits
  | createIndex index _ key =>
      exact ⟨(hcontains index (List.mem_singleton.2 rfl)).trans hfits.1,
        Snapshot.contains_columns_apply h hfits.2⟩
  | dropIndex index _ => exact (hcontains index (List.mem_singleton.2 rfl)).trans hfits
  | commentTable _ _ => trivial
  | commentColumn _ key _ => exact Snapshot.contains_columns_apply h hfits

/-- **Statements without a common aim that fit at the start can be sent in a row.** -/
theorem executable_of_fits {sts : List Statement} (h : ∀ st ∈ sts, st.makesTable = false)
    (haims : (sts.flatMap Statement.aims).Nodup) (hfits : ∀ st ∈ sts, st.FitsLive s) :
    Executable r (some s) sts := by
  induction sts generalizing s with
  | nil => trivial
  | cons st sts ih =>
      rw [List.flatMap_cons, List.nodup_append] at haims
      obtain ⟨-, hrest, hdisjoint⟩ := haims
      have hst := h st (List.mem_cons_self ..)
      refine ⟨hfits st (List.mem_cons_self ..), ?_⟩
      rw [Statement.send_of_live hst]
      refine ih (fun t ht => h t (List.mem_cons_of_mem _ ht)) hrest fun t ht => ?_
      -- what the first statement is for is not what a later one is for
      refine Statement.fitsLive_apply hst (fun a ha ha' => ?_) (hfits t (List.mem_cons_of_mem _ ht))
      exact hdisjoint a ha a (List.mem_flatMap.2 ⟨t, ht, ha'⟩) rfl

/-! ### Existing tables -/

namespace Snapshot

/-- The columns that are there stay. -/
theorem contains_columns_applyAll {sts : List Statement} (h : ∀ st ∈ sts, st.makesTable = false)
    {key : String} (hkey : s.columns.contains key = true) :
    (s.applyAll r sts).columns.contains key = true := by
  induction sts generalizing s with
  | nil => exact hkey
  | cons st sts ih =>
      exact ih (fun t ht => h t (List.mem_cons_of_mem _ ht))
        (contains_columns_apply (h st (List.mem_cons_self ..)) hkey)

/-- A column that is added is there. -/
theorem contains_columns_of_added {sts : List Statement} (h : ∀ st ∈ sts, st.makesTable = false)
    {c : Column} (hadd : .alterTable table (.addColumn c) ∈ sts) :
    (s.applyAll r sts).columns.contains c.key = true := by
  obtain ⟨before, after, rfl⟩ := List.append_of_mem hadd
  rw [applyAll_append, applyAll_cons]
  refine contains_columns_applyAll (fun st hst =>
    h st (List.mem_append_right _ (List.mem_cons_of_mem _ hst))) ?_
  simp [apply, Reporting.effect, Clause.key]

end Snapshot

/-- **The clauses of a field fit the table**: a missing column is added, and one that is there is
changed. -/
theorem fitsLive_of_draftField {f : Field} {a : Draft} (h : draftField d o table s f = .ok a)
    {k : Clause} (hk : k ∈ a.modifies ++ a.adds ++ a.defaults) :
    (Statement.alterTable table k).FitsLive s := by
  rcases clause_of_draftField h hk with ⟨hnone, rfl⟩ | ⟨hsome, hretype | rfl⟩
  · change s.columns.contains f.key = false
    rw [contains_iff, hnone]
    rfl
  · have hthere : s.columns.contains f.key = true := by
      rwa [contains_iff, Option.isSome_iff_ne_none]
    cases d with
    | mysql => cases hretype; exact hthere
    | postgres => cases hretype; exact hthere
    | sqlite => cases hretype
  · change s.columns.contains f.key = true
    rwa [contains_iff, Option.isSome_iff_ne_none]

/-- The clauses of a draft change columns and make no table. -/
theorem makesTable_of_clauses {a : Draft} : ∀ st ∈ (a.modifies ++ a.adds ++ a.defaults).map
    (Statement.alterTable table), st.makesTable = false := by
  intro st hst
  obtain ⟨k, _, rfl⟩ := List.mem_map.1 hst
  rfl

/-- After the clauses of a draft the column of every field is there. -/
theorem contains_column_of_field {fields : List Field} {a : Draft}
    (h : draftFields d o table s fields = .ok a) {f : Field} (hf : f ∈ fields) :
    (s.applyAll r ((a.modifies ++ a.adds ++ a.defaults).map
      (Statement.alterTable table))).columns.contains f.key = true := by
  cases hlive : s.columns[f.key]? with
  | none =>
      have hadd : Clause.addColumn (f.column d) ∈ a.adds :=
        (mem_group_draftFields Draft.adds rfl (fun _ _ _ => List.mem_append) h).2
          ⟨f, hf, _, draftField_of_none hlive, List.mem_singleton.2 rfl⟩
      exact Snapshot.contains_columns_of_added makesTable_of_clauses (c := f.column d)
        (List.mem_map_of_mem (List.mem_append_left _ (List.mem_append_right _ hadd)))
  | some live =>
      refine Snapshot.contains_columns_applyAll makesTable_of_clauses ?_
      rw [contains_iff, hlive]
      rfl

/-- The index changes of a plan fit the table once the columns of its fields are there. -/
theorem fitsLive_of_mem_indexChanges {fields : List Field} {s' : Snapshot}
    (hindexes : s'.indexes = s.indexes)
    (hstay : ∀ key, s.columns.contains key = true → s'.columns.contains key = true)
    (hthere : ∀ f ∈ fields, s'.columns.contains f.key = true) {c : IndexChange}
    (hc : c ∈ indexChanges table s (fields.map (·.column d))) :
    (c.statement table).FitsLive s' := by
  obtain ⟨verb, index, key⟩ := c
  cases verb with
  | create =>
      obtain ⟨-, hnone, hcolumn⟩ := create_mem_indexChanges_iff.1 hc
      refine ⟨?_, ?_⟩
      · rw [hindexes, contains_iff, hnone]
        rfl
      · rcases hcolumn with ⟨-, hsystem⟩ | ⟨wanted, hwanted, rfl, -⟩
        · exact hstay key hsystem
        · obtain ⟨f, hf, rfl⟩ := List.mem_map.1 hwanted
          exact hthere f hf
  | drop =>
      obtain ⟨-, -, hsome⟩ := drop_mem_indexChanges_iff.1 hc
      change s'.indexes.contains index = true
      rw [hindexes, contains_iff, hsome]
      rfl

/-- **The plan for an existing table can be carried out in its order.**  The clauses fit at the
start; after them the columns of all fields are there, and the index changes and comments fit. -/
theorem executable_planLiveTable {fields : List Field} (hfields : Declared d fields)
    {p : Planned} (h : planLiveTable d o table fields s = .ok p) :
    Executable r (some s) p.plan.statements := by
  have haims := aims_nodup_of_planLiveTable hfields h
  obtain ⟨a, hdraft, rfl⟩ := planLiveTable_eq_ok_iff.1 h
  rw [statements_planned, List.append_assoc] at haims ⊢
  rw [List.flatMap_append, List.nodup_append] at haims
  obtain ⟨hclauses, hrest, -⟩ := haims
  rw [executable_append makesTable_of_clauses]
  refine ⟨executable_of_fits makesTable_of_clauses hclauses fun st hst => ?_,
    executable_of_fits (fun st hst => ?_) hrest fun st hst => ?_⟩
  · obtain ⟨k, hk, rfl⟩ := List.mem_map.1 hst
    obtain ⟨f, _, b, hb, hk⟩ := clause_of_draftFields hdraft hk
    exact fitsLive_of_draftField hb hk
  · rcases List.mem_append.1 hst with hst | hst
    · obtain ⟨c, _, rfl⟩ := List.mem_map.1 hst
      exact (concerns_statement table "" c).2
    · obtain ⟨f, _, rfl⟩ := comment_of_draftFields hdraft hst
      rfl
  · rcases List.mem_append.1 hst with hst | hst
    · obtain ⟨c, hc, rfl⟩ := List.mem_map.1 hst
      have hindexes := Snapshot.indexes_applyAll_of_index? (r := r) (s := s) fun st hst =>
        makesTable_of_draftFields hdraft st (List.mem_append_left _ hst)
      exact fitsLive_of_mem_indexChanges hindexes
        (fun _ => Snapshot.contains_columns_applyAll makesTable_of_clauses)
        (fun f hf => contains_column_of_field hdraft hf) hc
    · obtain ⟨f, hf, rfl⟩ := comment_of_draftFields hdraft hst
      exact contains_column_of_field hdraft hf

/-! ### New tables -/

theorem contains_newTable {columns : List Column} {key : String} :
    (r.newTable columns).contains key = true ↔ key ∈ reservedKeys ++ columns.map (·.key) := by
  simp [Reporting.newTable, Std.ExtTreeMap.contains_ofList, ← systemColumns_keys,
    Function.comp_def]

/-- The comments of a new table fit it once its columns are there. -/
theorem fitsLive_of_mem_createComments {columns : List Column} {comment : Option String}
    (hthere : ∀ key ∈ reservedKeys ++ columns.map (·.key), s.columns.contains key = true)
    {st : Statement} (hst : st ∈ createComments table columns comment) : st.FitsLive s := by
  rcases mem_createComments hst with ⟨text, _, rfl⟩ | ⟨c, hc, rfl⟩ | ⟨c, hc, rfl⟩
  · trivial
  · refine hthere c.key (List.mem_append_left _ ?_)
    rw [← systemColumns_keys]
    exact List.mem_map_of_mem hc
  · exact hthere c.key (List.mem_append_right _ (List.mem_map_of_mem hc))

/-- **The plan for a new table can be carried out in its order.** -/
theorem executable_planNewTable {fields : List Field} (hfields : Declared d fields)
    (comment : Option String) :
    Executable r none (planNewTable d o table fields comment).plan.statements := by
  have haims := aims_nodup_planNewTable (d := d) (o := o) table hfields comment
  rw [statements_planNewTable] at haims ⊢
  rw [List.flatMap_cons, List.nodup_append] at haims
  refine ⟨newColumns_nodup hfields,
    executable_of_fits (fun st hst => ?_) haims.2.1 fun st hst => ?_⟩
  · rcases List.mem_append.1 hst with hst | hst
    · exact (index?_newComments _ _ _ st hst).1
    · obtain ⟨a, _, rfl⟩ := List.mem_map.1 hst
      exact (concerns_statement table "" a).2
  · have hthere : ∀ key ∈ reservedKeys ++ (fields.map (·.column d)).map (·.key),
        (r.newTable (fields.map (·.column d))).contains key = true :=
      fun key hkey => contains_newTable.2 hkey
    rcases List.mem_append.1 hst with hst | hst
    · split at hst
      · exact fitsLive_of_mem_createComments hthere hst
      · cases hst
    · obtain ⟨a, ha, rfl⟩ := List.mem_map.1 hst
      obtain ⟨key, hkey, rfl⟩ := List.mem_map.1 ha
      refine ⟨Std.ExtTreeMap.contains_empty, hthere key ?_⟩
      rcases mem_createIndexKeys_iff.1 hkey with hsystem | ⟨f, hf, rfl, -⟩
      · exact List.mem_append_left _ (systemIndexKeys_subset hsystem)
      · exact List.mem_append_right _
          (keys_columns d fields ▸ List.mem_map_of_mem (f := Field.key) hf)

/-! ### Every plan -/

theorem table_of_change (table : String) (a : IndexChange) : (a.statement table).table = table := by
  obtain ⟨verb, index, key⟩ := a
  cases verb <;> rfl

/-- A plan has statements about its table only. -/
theorem table_of_planLiveTable {fields : List Field} {p : Planned}
    (hplan : planLiveTable d o table fields s = .ok p) {st : Statement}
    (h : st ∈ p.plan.statements) : st.table = table := by
  obtain ⟨a, hdraft, rfl⟩ := planLiveTable_eq_ok_iff.1 hplan
  rw [statements_planned, List.mem_append, List.mem_append] at h
  rcases h with (h | h) | h
  · obtain ⟨k, _, rfl⟩ := List.mem_map.1 h
    rfl
  · obtain ⟨a, _, rfl⟩ := List.mem_map.1 h
    exact table_of_change table a
  · obtain ⟨f, _, rfl⟩ := comment_of_draftFields hdraft h
    rfl

theorem table_of_planNewTable {fields : List Field} {comment : Option String} {st : Statement}
    (h : st ∈ (planNewTable d o table fields comment).plan.statements) : st.table = table := by
  rw [statements_planNewTable, List.mem_cons, List.mem_append] at h
  rcases h with rfl | h | h
  · rfl
  · split at h
    · rcases mem_createComments h with ⟨text, _, rfl⟩ | ⟨c, _, rfl⟩ | ⟨c, _, rfl⟩ <;> rfl
    · cases h
  · obtain ⟨a, _, rfl⟩ := List.mem_map.1 h
    exact table_of_change table a

/-- **Every plan can be carried out in its order**, against any snapshot and for a table that is
missing, however the database reports columns. -/
theorem inOrder_plan (d : Dialect) (o : Options) (r : Reporting) (t : Definition)
    {fields : List Field} (hread : t.readFields d = .ok fields) :
    (∀ (s : Snapshot) (p : Planned), planLiveTable d o t.table fields s = .ok p →
      InOrder r t.table (some s) p.plan.statements) ∧
    ∀ comment : Option String,
      InOrder r t.table none (planNewTable d o t.table fields comment).plan.statements := by
  have hfields := declared_of_readFields hread
  exact ⟨fun s p hplan => ⟨fun st => table_of_planLiveTable hplan,
      executable_planLiveTable hfields hplan, aims_nodup_of_planLiveTable hfields hplan⟩,
    fun comment => ⟨fun st => table_of_planNewTable, executable_planNewTable hfields comment,
      aims_nodup_planNewTable t.table hfields comment⟩⟩

/-- Users with their addresses and the state of their profile. -/
def statedUsers : Definition :=
  ⟨"user", none, [("email", "mail|string|0|20|null|0|null"),
    ("profile_state", "s|string|0|20|null|1|null")]⟩

/-- The plan that brings the addresses up to date and adds the state with its index. -/
def stateUsers : Planned :=
  { plan :=
      { table := "user", changed := true
        adds := [.addColumn (profileState.column .postgres)]
        modifies := [.alterType "email" ⟨.varchar, some 20⟩]
        defaults := [.alterDefault "email" .absent]
        indexes := [dropIndexOf "user" "email", createIndexOf "user" "profile_state"]
        comments :=
          [.commentColumn "user" "email" "mail", .commentColumn "user" "profile_state" "s"] }
    counters :=
      { lengths := 1, defaults := 1, comments := 1, columnsAdded := 1, indexesCreated := 1,
        indexesDropped := 1 } }

/-- The state of the profile is added before it gets its index and its comment. -/
theorem inOrder_stateUsers :
    planLiveTable .postgres {} "user" [addressField, profileState] staleUsers = .ok stateUsers ∧
      InOrder (.plain firstWords) "user" (some staleUsers) stateUsers.plan.statements := by
  have hread : statedUsers.readFields .postgres = .ok [addressField, profileState] :=
    eq_ok_of_toOption (by decide +kernel)
  have hplan : planLiveTable .postgres {} statedUsers.table [addressField, profileState]
      staleUsers = .ok stateUsers := eq_ok_of_toOption (by decide +kernel)
  exact ⟨hplan, (inOrder_plan .postgres {} (.plain firstWords) statedUsers hread).1 staleUsers
    stateUsers hplan⟩

end Conform

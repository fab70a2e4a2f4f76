/-
**What a plan does to a snapshot.**

The statements of a plan change what introspection reports: a new column is reported with its type,
length and default, a clause changes what it names, a comment is reported as it was stated, and
indexes come and go by name.  How a database spells types and defaults is a parameter, so that one
account serves every dialect.

Main definitions:

* `Reporting` — how a database reports types, lengths, defaults and the system columns;
* `Reporting.Shows` — that a new column is reported without a difference;
* `Snapshot.apply`, `Snapshot.applyAll` — **the effect of statements on a snapshot**.

Main results:

* `Snapshot.getElem?_columns_applyAll` — a column is changed by the statements about it only;
* `Snapshot.getElem?_indexes_applyAll` — **each index change decides the index of its name**.
-/

import Conform.Proofs.Plan.Drafting

set_option relaxedAutoImplicit false
set_option autoImplicit false

namespace Conform

/-! ### Reports -/

/-- **How a database reports what it was told.** -/
structure Reporting where
  type : ColumnType → String
  length : ColumnType → Option Nat
  default : Default → Option String
  system : SystemColumn → LiveColumn

namespace Reporting

/-- A new column as it is reported. -/
def column (r : Reporting) (c : Column) : LiveColumn :=
  { type := r.type c.type, length := r.length c.type, nullable := true,
    default := r.default c.default, comment := none }

/-- **That a new column is reported without a difference.** -/
structure Shows (r : Reporting) (c : Column) : Prop where
  type : TypeName.same (r.type c.type) c.type.storage.keyword = true
  length : ∀ n, c.type.length = some n → r.length c.type = some n
  default : c.default.agrees (r.default c.default) = true

/-- The effect of a statement on a column that is there. -/
def change (r : Reporting) (live : LiveColumn) : Statement → LiveColumn
  | .alterTable _ (.modifyColumn c) =>
      { live with type := r.type c.type, length := r.length c.type, default := r.default c.default }
  | .alterTable _ (.alterType _ type) =>
      { live with type := r.type type, length := r.length type }
  | .alterTable _ (.alterDefault _ default) => { live with default := r.default default }
  | .commentColumn _ _ text => { live with comment := some text }
  | _ => live

/-- **The effect of a statement on the column that it is about.** -/
def effect (r : Reporting) (live : Option LiveColumn) : Statement → Option LiveColumn
  | .alterTable _ (.addColumn c) => some (r.column c)
  | st => live.map fun l => r.change l st

/-- The columns of a new table. -/
def newTable (r : Reporting) (columns : List Column) : NameMap LiveColumn :=
  Std.ExtTreeMap.ofList
    (systemColumns.map (fun c => (c.key, r.system c)) ++ columns.map fun c => (c.key, r.column c))

end Reporting

/-! ### Effects -/

/-- The index that a statement makes or drops. -/
def Statement.index? : Statement → Option String
  | createIndex index _ _ | dropIndex index _ => some index
  | createTable _ _ _ | alterTable _ _ | commentTable _ _ | commentColumn _ _ _ => none

/-- Whether a statement makes a table. -/
def Statement.makesTable : Statement → Bool
  | createTable _ _ _ => true
  | alterTable _ _ | createIndex _ _ _ | dropIndex _ _ | commentTable _ _ | commentColumn _ _ _ =>
      false

namespace Snapshot

/-- **The effect of a statement on a snapshot.** -/
def apply (r : Reporting) (s : Snapshot) (st : Statement) : Snapshot :=
  match st with
  | .createTable _ columns _ => ⟨r.newTable columns, ∅⟩
  | .alterTable _ clause =>
      { s with columns := s.columns.alter clause.key fun live => r.effect live st }
  | .commentColumn _ key _ => { s with columns := s.columns.alter key fun live => r.effect live st }
  | .createIndex index _ key => { s with indexes := s.indexes.insert index [key] }
  | .dropIndex index _ => { s with indexes := s.indexes.erase index }
  | .commentTable _ _ => s

/-- **The effect of statements one after the other.** -/
def applyAll (r : Reporting) (s : Snapshot) (sts : List Statement) : Snapshot :=
  sts.foldl (apply r) s

variable {r : Reporting} {s : Snapshot}

theorem applyAll_cons (st : Statement) (sts : List Statement) :
    s.applyAll r (st :: sts) = (s.apply r st).applyAll r sts := rfl

theorem applyAll_append (sts sts' : List Statement) :
    s.applyAll r (sts ++ sts') = (s.applyAll r sts).applyAll r sts' := List.foldl_append

/-! ### Columns -/

theorem getElem?_alter {α : Type} (m : NameMap α) (f : Option α → Option α) (k key : String) :
    (m.alter k f)[key]? = if k = key then f m[key]? else m[key]? := by
  by_cases h : k = key
  · subst h; simp
  · simp [Std.ExtTreeMap.getElem?_alter, h]

theorem getElem?_columns_apply {st : Statement} (h : st.makesTable = false) (key : String) :
    (s.apply r st).columns[key]? =
      if st.concerns key then r.effect s.columns[key]? st else s.columns[key]? := by
  cases st with
  | createTable _ _ _ => cases h
  | alterTable table clause => simp [apply, Statement.concerns, Statement.column?, getElem?_alter]
  | createIndex _ _ _ => simp [apply, Statement.concerns, Statement.column?]
  | dropIndex _ _ => simp [apply, Statement.concerns, Statement.column?]
  | commentTable _ _ => simp [apply, Statement.concerns, Statement.column?]
  | commentColumn table k text =>
      simp [apply, Statement.concerns, Statement.column?, getElem?_alter]

/-- **A column is changed by the statements about it only.** -/
theorem getElem?_columns_applyAll {sts : List Statement} (h : ∀ st ∈ sts, st.makesTable = false)
    (key : String) :
    (s.applyAll r sts).columns[key]? =
      (sts.filter (·.concerns key)).foldl r.effect s.columns[key]? := by
  induction sts generalizing s with
  | nil => rfl
  | cons st sts ih =>
      rw [applyAll_cons, ih fun t ht => h t (List.mem_cons_of_mem _ ht),
        getElem?_columns_apply (h st (List.mem_cons_self ..))]
      by_cases hst : st.concerns key = true
      · rw [if_pos hst, List.filter_cons_of_pos hst, List.foldl_cons]
      · rw [if_neg hst, List.filter_cons_of_neg hst]

/-! ### Indexes -/

theorem indexes_applyAll_of_index? {sts : List Statement}
    (h : ∀ st ∈ sts, st.makesTable = false ∧ st.index? = none) :
    (s.applyAll r sts).indexes = s.indexes := by
  induction sts generalizing s with
  | nil => rfl
  | cons st sts ih =>
      rw [applyAll_cons, ih fun t ht => h t (List.mem_cons_of_mem _ ht)]
      obtain ⟨htable, hindex⟩ := h st (List.mem_cons_self ..)
      cases st <;> simp_all [apply, Statement.makesTable, Statement.index?]

end Snapshot

/-- What an index change leaves under the name of its index. -/
def IndexChange.outcome (a : IndexChange) : Option (List String) :=
  match a.verb with
  | .create => some [a.key]
  | .drop => none

namespace Snapshot

variable {r : Reporting} {s : Snapshot}

theorem getElem?_indexes_apply (table : String) (a : IndexChange) (name : String) :
    (s.apply r (a.statement table)).indexes[name]? =
      if a.index = name then a.outcome else s.indexes[name]? := by
  obtain ⟨verb, index, key⟩ := a
  cases verb with
  | create =>
      change (s.indexes.insert index [key])[name]? = _
      by_cases h : index = name <;>
        simp [Std.ExtTreeMap.getElem?_insert, IndexChange.outcome, h]
  | drop =>
      change (s.indexes.erase index)[name]? = _
      by_cases h : index = name <;>
        simp [Std.ExtTreeMap.getElem?_erase, IndexChange.outcome, h]

/-- Index changes leave the indexes of other names. -/
theorem getElem?_indexes_of_not_mem {table name : String} {changes : List IndexChange}
    (h : ∀ a ∈ changes, a.index ≠ name) :
    (s.applyAll r (changes.map (·.statement table))).indexes[name]? = s.indexes[name]? := by
  induction changes generalizing s with
  | nil => rfl
  | cons a changes ih =>
      rw [List.map_cons, applyAll_cons, ih fun b hb => h b (List.mem_cons_of_mem _ hb),
        getElem?_indexes_apply, if_neg (h a (List.mem_cons_self ..))]

/-- **Each index change decides the index of its name**, where no two of them share one. -/
theorem getElem?_indexes_applyAll {table : String} {changes : List IndexChange}
    (hdistinct : (changes.map (·.index)).Nodup) {a : IndexChange} (ha : a ∈ changes) :
    (s.applyAll r (changes.map (·.statement table))).indexes[a.index]? = a.outcome := by
  induction changes generalizing s with
  | nil => cases ha
  | cons b changes ih =>
      rw [List.map_cons, List.nodup_cons] at hdistinct
      rw [List.map_cons, applyAll_cons]
      -- what the first change decides is not decided again by the others
      rcases List.mem_cons.1 ha with rfl | ha
      · rw [getElem?_indexes_of_not_mem fun c hc e =>
          hdistinct.1 (List.mem_map.2 ⟨c, hc, e⟩), getElem?_indexes_apply, if_pos rfl]
      · exact ih hdistinct.2 ha

theorem columns_applyAll_changes (table : String) (changes : List IndexChange) :
    (s.applyAll r (changes.map (·.statement table))).columns = s.columns := by
  induction changes generalizing s with
  | nil => rfl
  | cons a changes ih =>
      rw [List.map_cons, applyAll_cons, ih]
      obtain ⟨verb, index, key⟩ := a
      cases verb <;> rfl

end Snapshot

end Conform

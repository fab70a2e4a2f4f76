/-
**Index rows are grouped without loss.**

Introspection gives one row for each column of an index, and the rows of different indexes may be
mixed in any way.  Grouping them keeps, for every index, its rows in their order and with their
repetitions, and it keeps nothing else: two lists of rows give the same indexes exactly when they
agree on the rows of each index.  What decides whether an index may be dropped is therefore decided
by the rows alone.

Main results:

* `Snapshot.filter_eq_map_columnsOf` — the rows of an index are told by its columns;
* `Snapshot.groupRows_eq_iff` — **when two lists of rows give the same indexes**;
* `Snapshot.coversOnly_groupRows_iff` — an index covers one column alone exactly when it has one
  row;
* `Snapshot.rows_grouped` — **the indexes that rows describe**.
-/

import Conform.Live.Snapshot

set_option relaxedAutoImplicit false
set_option autoImplicit false

namespace Conform

namespace Snapshot

variable {rows rows' : List (String × String)} {name key : String}

/-! ### The rows of one index -/

/-- **The rows of an index are told by its columns.** -/
theorem filter_eq_map_columnsOf (name : String) (rows : List (String × String)) :
    (rows.filter fun row => row.1 == name) = (columnsOf name rows).map (name, ·) := by
  rw [columnsOf, List.map_map]
  refine (List.map_id _).symm.trans (List.map_congr_left fun row hrow => ?_)
  obtain rfl : row.1 = name := by simpa using (List.mem_filter.1 hrow).2
  rfl

theorem columnsOf_eq_iff :
    columnsOf name rows = columnsOf name rows' ↔
      (rows.filter fun row => row.1 == name) = rows'.filter fun row => row.1 == name := by
  constructor
  · intro h
    rw [filter_eq_map_columnsOf, filter_eq_map_columnsOf, h]
  · intro h
    rw [columnsOf, columnsOf, h]

/-- An index without rows is one whose name no row holds. -/
theorem columnsOf_eq_nil_iff : columnsOf name rows = [] ↔ name ∉ rows.map (·.1) := by
  rw [columnsOf, List.map_eq_nil_iff, List.filter_eq_nil_iff, List.mem_map]
  constructor
  · rintro h ⟨row, hrow, rfl⟩
    exact h row hrow (beq_self_eq_true row.1)
  · intro h row hrow hname
    exact h ⟨row, hrow, beq_iff_eq.1 hname⟩

/-! ### What grouping keeps -/

/-- Grouping tells the columns of an index, also of one without rows. -/
theorem getD_groupRows (name : String) (rows : List (String × String)) :
    (groupRows rows)[name]?.getD [] = columnsOf name rows := by
  rw [getElem?_groupRows]
  by_cases h : columnsOf name rows = []
  · rw [if_pos h, h]
    rfl
  · rw [if_neg h]
    rfl

/-- **When two lists of rows give the same indexes**: they agree on the rows of each index. -/
theorem groupRows_eq_iff :
    groupRows rows = groupRows rows' ↔
      ∀ name, (rows.filter fun row => row.1 == name) = rows'.filter fun row => row.1 == name := by
  simp only [← columnsOf_eq_iff]
  constructor
  · intro h name
    rw [← getD_groupRows, h, getD_groupRows]
  · intro h
    refine Std.ExtTreeMap.ext_getElem? fun name => ?_
    rw [getElem?_groupRows, getElem?_groupRows, h name]

/-- **An index covers one column alone exactly when it has one row**, which holds that column. -/
theorem coversOnly_groupRows_iff :
    coversOnly (groupRows rows) name key = true ↔
      (rows.filter fun row => row.1 == name) = [(name, key)] := by
  have hcolumns : coversOnly (groupRows rows) name key = true ↔ columnsOf name rows = [key] := by
    rw [coversOnly, beq_iff_eq, getElem?_groupRows]
    by_cases h : columnsOf name rows = [] <;> simp [h]
  rw [hcolumns, filter_eq_map_columnsOf]
  constructor
  · intro h
    rw [h]
    rfl
  · intro h
    obtain ⟨column, hcolumn, heq⟩ := List.map_eq_singleton_iff.1 h
    rw [hcolumn, (Prod.mk.inj heq).2]

/-- **The indexes that rows describe.**  Each name that occurs is mapped to the columns of its rows,
in their order and with repetitions, and no other name is mapped; so two lists of rows describe the
same indexes exactly when they have the same rows for each name, however these are mixed with
others.  An index is found to cover one given column alone exactly when there is one row of its
name, and it holds that column. -/
theorem rows_grouped (rows : List (String × String)) :
    (∀ name, (groupRows rows)[name]? =
      if name ∈ rows.map (·.1) then some ((rows.filter fun row => row.1 == name).map (·.2))
      else none) ∧
    (∀ rows', groupRows rows = groupRows rows' ↔
      ∀ name, (rows.filter fun row => row.1 == name) = rows'.filter fun row => row.1 == name) ∧
    ∀ name key, coversOnly (groupRows rows) name key = true ↔
      (rows.filter fun row => row.1 == name) = [(name, key)] := by
  refine ⟨fun name => ?_, fun rows' => groupRows_eq_iff, fun name key => coversOnly_groupRows_iff⟩
  rw [getElem?_groupRows]
  by_cases h : name ∈ rows.map (·.1)
  · rw [if_pos h, if_neg (mt columnsOf_eq_nil_iff.1 (not_not_intro h))]
    rfl
  · rw [if_neg h, if_pos (columnsOf_eq_nil_iff.2 h)]

end Snapshot

end Conform

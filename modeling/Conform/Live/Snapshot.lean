/-
**Snapshots of live tables.**

A snapshot is what introspection reports of a table: its columns by name, and its secondary
indexes by name with the columns that they cover, in order.
-/

import Conform.Live.Default
import Conform.Live.TypeName
import Std.Data.ExtTreeMap

set_option relaxedAutoImplicit false
set_option autoImplicit false

namespace Conform

/-- **A column as introspection reports it.** -/
structure LiveColumn where
  /-- The spelling of the type, with or without its length. -/
  type : String
  length : Option Nat
  nullable : Bool
  /-- The default in its compared form. -/
  default : Option String
  comment : Option String
  deriving DecidableEq, Repr

/-- A finite map from names; equal maps are equal values. -/
abbrev NameMap (α : Type) : Type := Std.ExtTreeMap String α

/-- **What introspection reports of a table.** -/
structure Snapshot where
  columns : NameMap LiveColumn
  indexes : NameMap (List String)

namespace Snapshot

/-- Whether the index `name` is reported to cover exactly the column `key`. -/
def coversOnly (indexes : NameMap (List String)) (name key : String) : Bool :=
  indexes[name]? == some [key]

/-! ### Index rows -/

def addRow (indexes : NameMap (List String)) (row : String × String) : NameMap (List String) :=
  indexes.alter row.1 fun columns => some (columns.getD [] ++ [row.2])

/-- **The indexes that a list of rows describes.**  A row holds the name of an index and one column
of it; the rows of different indexes may be mixed. -/
def groupRows (rows : List (String × String)) : NameMap (List String) := rows.foldl addRow ∅

/-- The columns in the rows of one index. -/
def columnsOf (name : String) (rows : List (String × String)) : List String :=
  (rows.filter fun row => row.1 == name).map (·.2)

theorem columnsOf_cons (name : String) (row : String × String) (rows : List (String × String)) :
    columnsOf name (row :: rows) =
      (if row.1 = name then [row.2] else []) ++ columnsOf name rows := by
  by_cases h : row.1 = name <;> simp [columnsOf, h]

theorem getElem?_addRow (indexes : NameMap (List String)) (row : String × String) (name : String) :
    (addRow indexes row)[name]? =
      if row.1 = name then some (indexes[name]?.getD [] ++ [row.2]) else indexes[name]? := by
  by_cases h : row.1 = name
  · subst h; simp [addRow]
  · simp [addRow, Std.ExtTreeMap.getElem?_alter, h]

theorem getElem?_foldl_addRow (rows : List (String × String)) (indexes : NameMap (List String))
    (name : String) :
    (rows.foldl addRow indexes)[name]? =
      if columnsOf name rows = [] then indexes[name]?
      else some (indexes[name]?.getD [] ++ columnsOf name rows) := by
  induction rows generalizing indexes with
  | nil => simp [columnsOf]
  | cons row rest ih =>
      rw [List.foldl_cons, ih, getElem?_addRow]
      rw [columnsOf_cons]
      by_cases h : row.1 = name <;> by_cases hr : columnsOf name rest = [] <;> simp [h, hr]

/-- **Each index is mapped to the columns of its rows**; a name without rows is not mapped. -/
theorem getElem?_groupRows (rows : List (String × String)) (name : String) :
    (groupRows rows)[name]? =
      if columnsOf name rows = [] then none else some (columnsOf name rows) := by
  simp [groupRows, getElem?_foldl_addRow]

end Snapshot

end Conform

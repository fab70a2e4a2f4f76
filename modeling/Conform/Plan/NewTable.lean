/-
**Plans for tables that do not exist yet.**
-/

import Conform.Log
import Conform.Plan.Basic
import Conform.Plan.Change

set_option relaxedAutoImplicit false
set_option autoImplicit false

namespace Conform

/-- **A plan with its counters.** -/
structure Planned where
  plan : TypedPlan
  counters : Counters
  deriving DecidableEq, Repr

/-! ### Indexes -/

def createIndexOf (table key : String) : IndexChange := ⟨.create, indexName table key, key⟩

def dropIndexOf (table key : String) : IndexChange := ⟨.drop, indexName table key, key⟩

/-- **The contribution of indexes to a plan.**  An index is counted where it is put in. -/
structure IndexDraft where
  changes : List IndexChange := []
  counters : Counters := 0
  deriving DecidableEq, Repr

namespace IndexDraft

def create (table : String) (a : IndexDraft) (key : String) : IndexDraft :=
  ⟨a.changes ++ [createIndexOf table key], a.counters + { indexesCreated := 1 }⟩

def drop (table : String) (a : IndexDraft) (key : String) : IndexDraft :=
  ⟨a.changes ++ [dropIndexOf table key], a.counters + { indexesDropped := 1 }⟩

/-- Each index that is made is put in once and counted once. -/
theorem foldl_create (table : String) (keys : List String) (a : IndexDraft) :
    keys.foldl (create table) a =
      ⟨a.changes ++ keys.map (createIndexOf table),
        a.counters + { indexesCreated := keys.length }⟩ := by
  induction keys generalizing a with
  | nil =>
      have hzero : ({ indexesCreated := 0 } : Counters) = 0 := rfl
      simp [hzero, Counters.add_zero]
  | cons key keys ih =>
      have hsum : ({ indexesCreated := 1 } : Counters) + { indexesCreated := keys.length } =
          { indexesCreated := keys.length + 1 } :=
        congrArg (fun n => ({ indexesCreated := n } : Counters)) (Nat.add_comm 1 keys.length)
      rw [List.foldl_cons, ih, create]
      simp [Counters.add_assoc, hsum]

end IndexDraft

/-! ### The plan -/

def labelStatement? (table : String) (c : Column) : Option Statement :=
  if c.label = "" then none else some (.commentColumn table c.key c.label)

def createComments (table : String) (columns : List Column) (comment : Option String) :
    List Statement :=
  (comment.map (Statement.commentTable table)).toList ++
    systemColumns.map (fun c => .commentColumn table c.key c.label) ++
    columns.filterMap (labelStatement? table)

def createIndexKeys (columns : List Column) : List String :=
  systemIndexKeys ++ (columns.filter (·.indexed)).map (·.key)

/-- **The plan that makes a table.** -/
def planNewTable (d : Dialect) (o : Options) (table : String) (fields : List Field)
    (comment : Option String) : Planned :=
  let columns := fields.map (·.column d)
  let indexes := (createIndexKeys columns).foldl (IndexDraft.create table) {}
  { plan := Plan.settle
      { table := table
        create := some (.createTable table columns comment)
        indexes := indexes.changes
        comments := if o.statesComments d then createComments table columns comment else [] }
    counters := { tablesCreated := 1 } + indexes.counters }

/-- **The plan that makes a table**, with its indexes and their number. -/
theorem planNewTable_eq (d : Dialect) (o : Options) (table : String) (fields : List Field)
    (comment : Option String) :
    planNewTable d o table fields comment =
      { plan := Plan.settle
          { table := table
            create := some (.createTable table (fields.map (·.column d)) comment)
            indexes := (createIndexKeys (fields.map (·.column d))).map (createIndexOf table)
            comments := if o.statesComments d then
              createComments table (fields.map (·.column d)) comment else [] }
        counters :=
          { tablesCreated := 1
            indexesCreated := (createIndexKeys (fields.map (·.column d))).length } } := by
  simp only [planNewTable, IndexDraft.foldl_create, Counters.zero_add, List.nil_append]
  rw [Counters.add_comm]
  rfl

theorem planNewTable_indexes (d : Dialect) (o : Options) (table : String) (fields : List Field)
    (comment : Option String) :
    (planNewTable d o table fields comment).plan.indexes =
      (createIndexKeys (fields.map (·.column d))).map (createIndexOf table) := by
  rw [planNewTable_eq]
  rfl

def newTableLog (table : String) (fields : List Field) : Log :=
  [⟨.info, .planning, s!"{table}: new table with {fields.length} fields"⟩]

end Conform

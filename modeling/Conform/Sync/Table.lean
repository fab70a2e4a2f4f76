/-
**The sync of one table.**

The fields are read first, then the backend is asked for the table, the plan is made, and its
statements are executed one after the other, or only shown.  Nothing is executed unless planning
succeeded.
-/

import Conform.Sync.Session

set_option relaxedAutoImplicit false
set_option autoImplicit false

namespace Conform

open Session

variable {σ : Type}

/-- **What the sync of a table did.** -/
structure Outcome where
  plan : WrittenPlan
  counters : Counters
  /-- The statements that were executed, or only shown. -/
  statements : List String
  deriving DecidableEq, Repr

/-- **Introspection and planning of one table.** -/
def planTable (b : Backend σ) (o : Options) (t : Definition) (fields : List Field) :
    Session σ Planned := do
  if ← ask (b.tableExists t.table) then
    let columns ← ask (b.columns t.table)
    let indexes ← ask (b.indexes t.table)
    note [⟨.debug, .planning,
      s!"{t.table}: {columns.size} columns, {indexes.size} indexes introspected"⟩]
    note (liveTableLog b.dialect o t.table fields ⟨columns, indexes⟩)
    settle ((planLiveTable b.dialect o t.table fields ⟨columns, indexes⟩).mapError .typeChange)
  else
    note (newTableLog t.table fields)
    return planNewTable b.dialect o t.table fields t.comment

/-- Executing statements in order, up to the first failure. -/
def executeAll (b : Backend σ) (table : String) : List String → Session σ Unit
  | [] => pure ()
  | sql :: rest => do
      note [⟨.debug, .execution, s!"{table}: {Text.collapse sql}"⟩]
      ask (b.execute sql)
      executeAll b table rest

/-- The entries that show statements instead of executing them. -/
def planLog (statements : List String) : Log :=
  statements.map fun sql => ⟨.info, .execution, s!"[plan] {Text.collapse sql}"⟩

/-- **Sending or showing the statements of a plan.**  A plan that is not to be carried out has
none. -/
def carryOut (b : Backend σ) (o : Options) (p : WrittenPlan) : Session σ (List String) :=
  if p.changed then do
    let statements := p.statements b.dialect o.engine
    if o.planOnly then note (planLog statements) else executeAll b p.table statements
    return statements
  else return []

/-- **The sync of one table.** -/
def syncTable (b : Backend σ) (o : Options) (t : Definition) : Session σ Outcome := do
  let fields ← settle ((t.readFields b.dialect).mapError .rule)
  let planned ← planTable b o t fields
  let plan := planned.plan.write b.dialect o.engine
  let statements ← carryOut b o plan
  return ⟨plan, planned.counters, statements⟩

end Conform

/-
**The summary of a run.**
-/

import Conform.Sync.Table

set_option relaxedAutoImplicit false
set_option autoImplicit false

namespace Conform

structure Failure where
  table : String
  message : String
  deriving DecidableEq, Repr

/-- **What became of the tables of a run.** -/
structure Summary where
  planOnly : Bool
  counters : Counters := 0
  changed : List String := []
  unchanged : List String := []
  failures : List Failure := []
  deriving DecidableEq, Repr

namespace Summary

/-- **Taking in the outcome of a table.** -/
def absorb (s : Summary) (table : String) (isChanged : Bool) (counters : Counters) : Summary :=
  if isChanged then { s with counters := s.counters + counters, changed := s.changed ++ [table] }
  else { s with counters := s.counters + counters, unchanged := s.unchanged ++ [table] }

/-- **Taking in the failure of a table.** -/
def fail (s : Summary) (table message : String) : Summary :=
  { s with failures := s.failures ++ [⟨table, message⟩] }

def isSuccess (s : Summary) : Bool := s.failures.isEmpty

def failureLine (f : Failure) : String := s!"\n  failed `{f.table}`: {f.message}"

/-- **The lines that tell what a run did.** -/
def text (s : Summary) : String :=
  let c := s.counters
  let mode := if s.planOnly then "Plan" else "Sync"
  s!"{mode}: {s.changed.length} changed, {s.unchanged.length} unchanged, " ++
    s!"{s.failures.length} failed\n" ++
    s!"  tables created: {c.tablesCreated}, fields added: {c.columnsAdded}\n" ++
    s!"  type: {c.types}, length: {c.lengths}, default: {c.defaults}, comment: {c.comments}\n" ++
    s!"  indexes created: {c.indexesCreated}, indexes dropped: {c.indexesDropped}" ++
    String.join (s.failures.map failureLine)

end Summary

end Conform

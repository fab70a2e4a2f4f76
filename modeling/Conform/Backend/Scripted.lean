/-
**A backend that follows a script.**

The script fixes the answers: which tables there are, and which calls fail with which text.  The
state is the trace of the calls.  Executing a statement records it and changes nothing else.
-/

import Conform.Backend.Basic

set_option relaxedAutoImplicit false
set_option autoImplicit false

namespace Conform

/-- **A call of a backend.** -/
inductive Call
  | tableExists (table : String)
  | columns (table : String)
  | indexes (table : String)
  | execute (sql : String)
  deriving DecidableEq, Repr

def Call.isExecute : Call → Bool
  | execute _ => true
  | tableExists _ | columns _ | indexes _ => false

/-- **The answers of a scripted backend.**  A fault is the text of the error with which a call
fails; statements are counted from one. -/
structure Script where
  tables : String → Option Snapshot
  tableExistsFault : String → Option String := fun _ => none
  columnsFault : String → Option String := fun _ => none
  indexesFault : String → Option String := fun _ => none
  executeFault : Nat → Option String := fun _ => none

namespace Script

def answer {α : Type} (fault : Option String) (value : α) : Except BackendError α :=
  match fault with
  | some text => .error (.connection text)
  | none => .ok value

def executed (trace : List Call) : Nat := trace.countP Call.isExecute

/-- **The backend that follows a script.**  Its state is the trace of the calls, in order. -/
def backend (d : Dialect) (s : Script) : Backend (List Call) where
  dialect := d
  tableExists table trace :=
    (answer (s.tableExistsFault table) (s.tables table).isSome, trace ++ [.tableExists table])
  columns table trace :=
    (answer (s.columnsFault table) (((s.tables table).map (·.columns)).getD ∅),
      trace ++ [.columns table])
  indexes table trace :=
    (answer (s.indexesFault table) (((s.tables table).map (·.indexes)).getD ∅),
      trace ++ [.indexes table])
  execute sql trace := (answer (s.executeFault (executed trace + 1)) (), trace ++ [.execute sql])

end Script

end Conform

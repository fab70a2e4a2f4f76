/-
**The log of a run, as data.**
-/

set_option relaxedAutoImplicit false
set_option autoImplicit false

namespace Conform

/-- How important an entry of the log is, most important first. -/
inductive Level
  | error
  | warn
  | info
  | debug
  deriving DecidableEq, Repr

def Level.name : Level → String
  | error => "ERROR"
  | warn => "WARN"
  | info => "INFO"
  | debug => "DEBUG"

/-- The rank of a level; the most important one has rank one. -/
def Level.rank : Level → Nat
  | error => 1
  | warn => 2
  | info => 3
  | debug => 4

/-- **The part of a run that an entry comes from.** -/
inductive Origin
  /-- Settings, definitions, and what became of each table and of the run. -/
  | run
  /-- The comparison of a table with its definition. -/
  | planning
  /-- The statements that are sent or shown. -/
  | execution
  deriving DecidableEq, Repr

def Origin.path : Origin → String
  | run => "tablesync"
  | planning => "tablesync::sync::orchestrator"
  | execution => "tablesync::sync::applier"

/-- **One message of a run.** -/
structure Entry where
  level : Level
  origin : Origin
  text : String
  deriving DecidableEq, Repr

abbrev Log : Type := List Entry

end Conform

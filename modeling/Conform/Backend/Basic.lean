/-
**What a sync asks of a database.**

A backend answers three questions about a table and executes statements.  Every call takes the
state of the backend and gives the state after it, also when it fails.
-/

import Conform.Dialect
import Conform.Live.Snapshot

set_option relaxedAutoImplicit false
set_option autoImplicit false

namespace Conform

/-- **Why a call of a backend failed.** -/
inductive BackendError
  | connection (text : String)
  | database (text : String)
  deriving DecidableEq, Repr

def BackendError.message : BackendError → String
  | connection text => s!"Connection error: {text}"
  | database text => s!"Database error: {text}"

/-- The answer of a call, and the state of the backend after it. -/
abbrev Answer (σ α : Type) : Type := Except BackendError α × σ

/-- **A database as a sync sees it.** -/
structure Backend (σ : Type) where
  dialect : Dialect
  tableExists : String → σ → Answer σ Bool
  /-- The columns of a table; none if the table does not exist. -/
  columns : String → σ → Answer σ (NameMap LiveColumn)
  /-- The secondary indexes of a table; none if the table does not exist. -/
  indexes : String → σ → Answer σ (NameMap (List String))
  execute : String → σ → Answer σ Unit

end Conform

/-
**Runs over many tables.**

Tables are synced one after the other; a table that fails is recorded and the next one follows.
-/

import Conform.Plan.Report
import Conform.Sync.Summary

set_option relaxedAutoImplicit false
set_option autoImplicit false

namespace Conform

variable {σ : Type}

/-- The sync of the next table of a run: its report or its error is logged. -/
def syncStep (b : Backend σ) (o : Options) (run : Summary × Journal σ) (t : Definition) :
    Summary × Journal σ :=
  match (syncTable b o t).run run.2 with
  | (.ok outcome, j) =>
      (run.1.absorb outcome.plan.table outcome.plan.changed outcome.counters,
        { j with log := j.log ++ [⟨.info, .run, outcome.plan.report⟩] })
  | (.error e, j) =>
      (run.1.fail t.table e.message,
        { j with log := j.log ++ [⟨.error, .run, s!"{t.table}: {e.message}"⟩] })

/-- **The run over a list of definitions.** -/
def syncAll (b : Backend σ) (o : Options) (tables : List Definition) (j : Journal σ) :
    Summary × Journal σ :=
  tables.foldl (syncStep b o) ({ planOnly := o.planOnly }, j)

end Conform

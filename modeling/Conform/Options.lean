/-
**The switches of a run.**
-/

import Conform.Sql.Statement

set_option relaxedAutoImplicit false
set_option autoImplicit false

namespace Conform

/-- **The switches of a run.** -/
structure Options where
  /-- Statements are shown and not executed. -/
  planOnly : Bool := false
  /-- Columns may be made shorter than they are. -/
  allowShrink : Bool := false
  /-- Comments of PostgreSQL columns are kept in step with the labels. -/
  comments : Bool := true
  engine : Engine := ⟨"InnoDB", "utf8mb4"⟩
  deriving DecidableEq, Repr

/-- Whether comments are stated and compared in a dialect. -/
def Options.statesComments (o : Options) (d : Dialect) : Bool :=
  d.hasCommentStatements && o.comments

end Conform

/-
**The switches that planning looks at.**

Planning looks at the switch for shorter columns and at whether comments are stated in the dialect.
Two choices of switches that agree on these have the same plans, the same refusals and the same
entries in the log.  In particular it makes no difference whether statements are sent or only
shown: a dry run is planned as the run it stands for.

Main definitions:

* `Options.PlansLike` — that two choices of switches agree on what planning looks at.

Main results:

* `Options.plansLike_planOnly` — sending or showing statements is not looked at;
* `planLiveTable_congr`, `planNewTable_congr` — **choices that agree have the same plans**;
* `liveTableLog_congr` — and the same entries in the log.
-/

import Conform.Proofs.Plan.Drafting

set_option relaxedAutoImplicit false
set_option autoImplicit false

namespace Conform

/-- **That two choices of switches agree on what planning looks at.** -/
structure Options.PlansLike (d : Dialect) (o o' : Options) : Prop where
  allowShrink : o.allowShrink = o'.allowShrink
  statesComments : o.statesComments d = o'.statesComments d

/-- Whether statements are sent or only shown is not looked at. -/
theorem Options.plansLike_planOnly (d : Dialect) (o : Options) (planOnly : Bool) :
    Options.PlansLike d { o with planOnly := planOnly } o := ⟨rfl, rfl⟩

section Congruence

variable {d : Dialect} {o o' : Options} (h : o.PlansLike d o') (table : String)

/-! ### Fields -/

include h in
theorem review_congr (live : LiveColumn) (c : Column) : review d o live c = review d o' live c := by
  simp only [review, h.allowShrink, h.statesComments]

include h in
theorem draftMissing_congr (c : Column) :
    draftMissing d o table c = draftMissing d o' table c := by
  simp only [draftMissing, h.statesComments]

include h in
theorem draftField_congr (s : Snapshot) (f : Field) :
    draftField d o table s f = draftField d o' table s f := by
  simp only [draftField, review_congr h, draftMissing_congr h]

include h in
theorem draftFields_congr (s : Snapshot) (fields : List Field) :
    draftFields d o table s fields = draftFields d o' table s fields :=
  draftFields_congr_of_forall fun f _ => draftField_congr h table s f

/-! ### Plans -/

include h in
/-- **Choices that agree have the same plan for a table that is there**, or the same refusal. -/
theorem planLiveTable_congr (fields : List Field) (s : Snapshot) :
    planLiveTable d o table fields s = planLiveTable d o' table fields s := by
  simp only [planLiveTable, draftFields_congr h]

include h in
/-- **Choices that agree have the same plan for a new table.** -/
theorem planNewTable_congr (fields : List Field) (comment : Option String) :
    planNewTable d o table fields comment = planNewTable d o' table fields comment := by
  simp only [planNewTable, h.statesComments]

/-! ### The log -/

include h in
theorem fieldLog_congr (s : Snapshot) (f : Field) :
    fieldLog d o table s f = fieldLog d o' table s f := by
  simp only [fieldLog, review_congr h]

include h in
theorem fieldsLog_congr (s : Snapshot) (fields : List Field) :
    fieldsLog d o table s fields = fieldsLog d o' table s fields := by
  induction fields with
  | nil => rfl
  | cons f fs ih => simp only [fieldsLog, fieldLog_congr h, draftField_congr h, ih]

include h in
/-- **Choices that agree log the same** while a table is planned. -/
theorem liveTableLog_congr (fields : List Field) (s : Snapshot) :
    liveTableLog d o table fields s = liveTableLog d o' table fields s := by
  simp only [liveTableLog, fieldsLog_congr h, draftFields_congr h]

end Congruence

end Conform

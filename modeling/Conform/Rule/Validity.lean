/-
**Which rules are admissible in a dialect.**
-/

import Conform.Rule.Grammar

set_option relaxedAutoImplicit false
set_option autoImplicit false

namespace Conform

/-- **The keys of the columns that every table has**; no definition declares them. -/
def reservedKeys : List String := ["id", "created_at", "updated_at", "deleted_at", "state"]

namespace Rule

/-- Long texts have neither bounds nor a default. -/
def checkText (r : Rule) : Option Fault :=
  if r.kind.isText then
    if r.lower.isSome || r.upper.isSome then some (.boundsOnText r.kind)
    else if r.default = .absent then none
    else some (.defaultOnText r.kind)
  else none

/-- Bounded kinds have a length, and the dialect allows it. -/
def checkLength (d : Dialect) (r : Rule) : Option Fault :=
  if r.kind.isBounded then
    match r.length with
    | none => some (.noLength r.kind)
    | some n => if d.varcharLimit < n then some (.tooLong n d) else none
  else none

/-- The lower bound is not above the upper one. -/
def checkBounds (r : Rule) : Option Fault :=
  match r.lower, r.upper with
  | some lower, some upper => if upper.lt lower then some (.crossedBounds lower upper) else none
  | _, _ => none

/-- **The first fault of a rule in a dialect**, if it has one. -/
def check (d : Dialect) (r : Rule) : Option Fault :=
  (r.checkText.or (r.checkLength d)).or r.checkBounds

/-- A rule has no fault exactly when it has none of the three sorts. -/
theorem check_eq_none_iff {d : Dialect} {r : Rule} :
    r.check d = none ↔ r.checkText = none ∧ r.checkLength d = none ∧ r.checkBounds = none := by
  simp [check, Option.or_eq_none_iff, and_assoc]

/-- **The admissible rule of a field**, or its first fault. -/
def validate (d : Dialect) (key raw : String) : Except Fault Rule :=
  if key ∈ reservedKeys then .error .reservedKey
  else do
    let r ← parse raw
    match r.check d with
    | some fault => .error fault
    | none => return r

end Rule

end Conform

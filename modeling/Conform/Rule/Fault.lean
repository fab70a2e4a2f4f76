/-
**Why a rule is refused.**
-/

import Conform.Dialect
import Conform.Numeral.Shortest
import Conform.Rule.Basic

set_option relaxedAutoImplicit false
set_option autoImplicit false

namespace Conform

inductive Bound
  | lower
  | upper
  deriving DecidableEq, Repr

def Bound.name : Bound → String
  | lower => "min"
  | upper => "max"

/-- **The causes for which a rule is refused.** -/
inductive Fault
  /-- The rule has a wrong number of parts. -/
  | parts (found : Nat)
  | unknownKind (token : String)
  | bound (which : Bound) (token : String)
  /-- The default of a number is a number, but not an integer of sixty-four bits. -/
  | fractionalDefault (token : String)
  | numberDefault (token : String)
  | indexFlag (token : String)
  /-- The key belongs to a column that every table has. -/
  | reservedKey
  | repeatedKey
  | blankTable
  | boundsOnText (kind : Kind)
  | defaultOnText (kind : Kind)
  | noLength (kind : Kind)
  | tooLong (length : Nat) (dialect : Dialect)
  | crossedBounds (lower upper : Binary64)
  deriving DecidableEq, Repr

/-- **The wording of a fault.** -/
def Fault.reason : Fault → String
  | parts n => s!"expected 7 `|`-separated parts, found {n}"
  | unknownKind token => s!"unknown type `{token}`"
  | bound which token => s!"{which.name} `{token}` is not a number"
  | fractionalDefault token => s!"number default `{token}` must be an integer"
  | numberDefault token => s!"default `{token}` is not a number"
  | indexFlag token => s!"index flag must be 0 or 1, found `{token}`"
  | reservedKey => "reserved column key, owned by the system"
  | repeatedKey => "duplicate column key"
  | blankTable => "table name is empty"
  | boundsOnText kind => s!"{kind.label} fields cannot declare min/max"
  | defaultOnText kind => s!"{kind.label} fields cannot declare a default"
  | noLength kind => s!"{kind.label} fields need a positive integer max"
  | tooLong length dialect =>
      s!"max {length} exceeds the {dialect.name} varchar limit of {dialect.varcharLimit}"
  | crossedBounds lower upper => s!"min {lower.write} is greater than max {upper.write}"

/-- **A fault at a field of a table.**  The field is empty when the table itself is at fault. -/
structure RuleError where
  table : String
  field : String
  fault : Fault
  deriving DecidableEq, Repr

def RuleError.message (e : RuleError) : String :=
  s!"Invalid rule for field `{e.field}` in table `{e.table}`: {e.fault.reason}"

end Conform

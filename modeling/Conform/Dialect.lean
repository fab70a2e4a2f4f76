/-
**The SQL dialects, and what each of them allows.**
-/

import Conform.Text.Cut

set_option relaxedAutoImplicit false
set_option autoImplicit false

namespace Conform

/-- **A dialect of SQL.** -/
inductive Dialect
  | mysql
  | postgres
  | sqlite
  deriving DecidableEq, Repr

namespace Dialect

def name : Dialect → String
  | mysql => "mysql"
  | postgres => "postgres"
  | sqlite => "sqlite"

/-- The dialect with a given name in small letters; each has more than one. -/
def ofName? (name : String) : Option Dialect :=
  if name ∈ ["postgres", "postgresql", "pg"] then some postgres
  else if name ∈ ["mysql", "mariadb"] then some mysql
  else if name ∈ ["sqlite", "sqlite3"] then some sqlite
  else none

/-- **The longest varying character column.**  MySQL has 65535 bytes for a row and up to four
bytes for a character. -/
def varcharLimit : Dialect → Nat
  | mysql => 16383
  | postgres => 10485760
  | sqlite => 1000000000

/-- Whether the clause that changes a column in place states the whole column again, its default
included. -/
def restatesDefault : Dialect → Bool
  | mysql => true
  | postgres => false
  | sqlite => false

/-- Whether comments are separate statements that are compared with the live ones. -/
def hasCommentStatements : Dialect → Bool
  | mysql => false
  | postgres => true
  | sqlite => false

end Dialect

end Conform

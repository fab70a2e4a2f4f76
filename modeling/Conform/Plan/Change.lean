/-
**Differences between a live column and the wanted one.**
-/

import Conform.Column
import Conform.Live.Snapshot

set_option relaxedAutoImplicit false
set_option autoImplicit false

namespace Conform

/-! ### Changes -/

/-- **In what a live column differs from the wanted one.** -/
inductive Aspect
  | type
  | length
  | default
  | comment
  deriving DecidableEq, Repr

def Aspect.label : Aspect → String
  | type => "类型"
  | length => "长度"
  | default => "默认值"
  | comment => "注释"

/-- **One difference**, with both values as messages show them. -/
structure Change where
  aspect : Aspect
  live : String
  wanted : String
  deriving DecidableEq, Repr

def typeChange? (live : LiveColumn) (c : Column) : Option Change :=
  if TypeName.same live.type c.type.storage.keyword then none
  else some ⟨.type, live.type, c.type.storage.keyword⟩

/-- The wanted column has a length, and the live one does not have it. -/
def lengthChange? (live : LiveColumn) (c : Column) : Option Change :=
  match c.type.length with
  | none => none
  | some n =>
      if live.length = some n then none
      else some ⟨.length, (live.length.map toString).getD "NULL", toString n⟩

def defaultChange? (live : LiveColumn) (c : Column) : Option Change :=
  if c.default.agrees live.default then none
  else some ⟨.default, live.default.getD "NULL", c.default.display⟩

/-- Comments are compared, and they differ; no comment is the empty one. -/
def commentChange? (compared : Bool) (live : LiveColumn) (c : Column) : Option Change :=
  if !compared || live.comment.getD "" == c.label then none
  else some ⟨.comment, live.comment.getD "", c.label⟩

/-- **All differences between a live column and the wanted one.** -/
def changes (compareComments : Bool) (live : LiveColumn) (c : Column) : List Change :=
  (typeChange? live c).toList ++ (lengthChange? live c).toList ++
    (defaultChange? live c).toList ++ (commentChange? compareComments live c).toList

/-! ### Counters -/

/-- **How many changes of each sort there are.**  A run keeps each count in a word of 32 bits; these
are the same counts as long as none of them reaches `2 ^ 32`. -/
structure Counters where
  types : Nat := 0
  lengths : Nat := 0
  defaults : Nat := 0
  comments : Nat := 0
  columnsAdded : Nat := 0
  indexesCreated : Nat := 0
  indexesDropped : Nat := 0
  tablesCreated : Nat := 0
  deriving DecidableEq, Repr

namespace Counters

def add (a b : Counters) : Counters :=
  ⟨a.types + b.types, a.lengths + b.lengths, a.defaults + b.defaults, a.comments + b.comments,
    a.columnsAdded + b.columnsAdded, a.indexesCreated + b.indexesCreated,
    a.indexesDropped + b.indexesDropped, a.tablesCreated + b.tablesCreated⟩

instance : Add Counters := ⟨add⟩

instance : Zero Counters := ⟨{}⟩

theorem zero_add (a : Counters) : 0 + a = a := by
  change add {} a = a
  simp [add]

theorem add_zero (a : Counters) : a + 0 = a := by
  change add a {} = a
  simp [add]

theorem add_assoc (a b c : Counters) : a + b + c = a + (b + c) := by
  change add (add a b) c = add a (add b c)
  simp [add, Nat.add_assoc]

theorem add_comm (a b : Counters) : a + b = b + a := by
  change add a b = add b a
  simp [add, Nat.add_comm]

instance : @Std.Associative Counters (· + ·) := ⟨add_assoc⟩

instance : @Std.Commutative Counters (· + ·) := ⟨add_comm⟩

def ofAspect : Aspect → Counters
  | .type => { types := 1 }
  | .length => { lengths := 1 }
  | .default => { defaults := 1 }
  | .comment => { comments := 1 }

def ofChanges : List Change → Counters
  | [] => 0
  | c :: cs => ofAspect c.aspect + ofChanges cs

end Counters

end Conform

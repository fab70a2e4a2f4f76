/-
**Plans: the statements for one table, grouped by purpose.**

A plan holds the statements for one table before they are sent.  The order in which they are sent
is the same for statements as values and for their texts, so a plan is generic in what stands for
a statement and for a clause.
-/

import Conform.Options

set_option relaxedAutoImplicit false
set_option autoImplicit false

namespace Conform

/-! ### Index changes -/

inductive IndexVerb
  | create
  | drop
  deriving DecidableEq, Repr

/-- **Creating or dropping the index of a column.** -/
structure IndexChange where
  verb : IndexVerb
  index : String
  key : String
  deriving DecidableEq, Repr

def IndexChange.statement (table : String) (a : IndexChange) : Statement :=
  match a.verb with
  | .create => .createIndex a.index table a.key
  | .drop => .dropIndex a.index table

/-! ### Plans -/

/-- **The statements for one table, grouped by purpose**; `σ` stands for statements and `κ` for
clauses. -/
structure Plan (σ κ : Type) where
  table : String
  /-- Whether the plan is to be carried out. -/
  changed : Bool := false
  /-- The table is made by this statement. -/
  create : Option σ := none
  adds : List κ := []
  modifies : List κ := []
  defaults : List κ := []
  indexes : List IndexChange := []
  comments : List σ := []
  deriving DecidableEq, Repr

namespace Plan

variable {σ κ σ' κ' : Type}

/-- Whether any group of a plan holds something. -/
def acts (p : Plan σ κ) : Bool :=
  p.create.isSome || !p.adds.isEmpty || !p.modifies.isEmpty || !p.defaults.isEmpty ||
    !p.indexes.isEmpty || !p.comments.isEmpty

/-- **The statements of a plan in the order in which they are sent.**  A new table gets its
comments before its indexes; otherwise columns are changed, added and given their defaults before
indexes and comments follow. -/
def inOrder (alter : κ → σ) (index : IndexChange → σ) (p : Plan σ κ) : List σ :=
  match p.create with
  | some s => s :: (p.comments ++ p.indexes.map index)
  | none =>
      (p.modifies ++ p.adds ++ p.defaults).map alter ++ p.indexes.map index ++ p.comments

def map (f : σ → σ') (g : κ → κ') (p : Plan σ κ) : Plan σ' κ' :=
  { table := p.table, changed := p.changed, create := p.create.map f, adds := p.adds.map g,
    modifies := p.modifies.map g, defaults := p.defaults.map g, indexes := p.indexes,
    comments := p.comments.map f }

theorem inOrder_map {f : σ → σ'} {g : κ → κ'} {alter : κ → σ} {alter' : κ' → σ'}
    {index : IndexChange → σ} {index' : IndexChange → σ'} (p : Plan σ κ)
    (halter : ∀ k ∈ p.modifies ++ p.adds ++ p.defaults, alter' (g k) = f (alter k))
    (hindex : ∀ a ∈ p.indexes, index' a = f (index a)) :
    (p.map f g).inOrder alter' index' = (p.inOrder alter index).map f := by
  have hi : p.indexes.map index' = (p.indexes.map index).map f := by
    rw [List.map_map]; exact List.map_congr_left hindex
  have ha : ((p.modifies ++ p.adds ++ p.defaults).map g).map alter' =
      ((p.modifies ++ p.adds ++ p.defaults).map alter).map f := by
    rw [List.map_map, List.map_map]; exact List.map_congr_left halter
  cases hc : p.create with
  | some s => simp [inOrder, map, hc, hi]
  | none =>
      have hmap : (p.map f g).inOrder alter' index' =
          ((p.modifies ++ p.adds ++ p.defaults).map g).map alter' ++ p.indexes.map index' ++
            p.comments.map f := by
        simp [inOrder, map, hc]
      rw [hmap, ha, hi]
      simp [inOrder, hc]

/-- A plan does something exactly when it has a statement to send. -/
theorem acts_iff (alter : κ → σ) (index : IndexChange → σ) (p : Plan σ κ) :
    p.acts = true ↔ p.inOrder alter index ≠ [] := by
  cases hc : p.create with
  | some s => simp [acts, inOrder, hc]
  | none =>
      simp [acts, inOrder, hc]
      grind

/-- The plan that is carried out if it does something. -/
def settle (p : Plan σ κ) : Plan σ κ := { p with changed := p.acts }

end Plan

/-! ### Plans of statements, plans of texts -/

abbrev TypedPlan : Type := Plan Statement Clause

abbrev WrittenPlan : Type := Plan String String

def TypedPlan.statements (p : TypedPlan) : List Statement :=
  p.inOrder (.alterTable p.table) (·.statement p.table)

def WrittenPlan.statements (d : Dialect) (e : Engine) (p : WrittenPlan) : List String :=
  p.inOrder (alterText d p.table) fun a => (a.statement p.table).write d e

/-- **The texts of a plan.** -/
def TypedPlan.write (d : Dialect) (e : Engine) (p : TypedPlan) : WrittenPlan :=
  p.map (·.write d e) fun k => Sql.write d (k.layout d)

/-- **The texts that are sent are the texts of the statements.** -/
theorem TypedPlan.statements_write (d : Dialect) (e : Engine) (p : TypedPlan) :
    WrittenPlan.statements d e (p.write d e) = p.statements.map (·.write d e) := by
  refine Plan.inOrder_map p ?_ ?_
  · intro k _
    exact (Statement.write_alterTable d e p.table k).symm
  · intro a _
    rfl

end Conform

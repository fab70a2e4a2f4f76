/-
**Table definitions and their fields.**

A definition names a table and lists a rule for each of its own columns.  Reading the fields in a
dialect gives one verdict for each occurrence of a key: the field, or the reason why it is refused.
-/

import Conform.Rule.Validity

set_option relaxedAutoImplicit false
set_option autoImplicit false

namespace Conform

/-- **A table as it is declared**: keys and rules in the order in which they are written. -/
structure Definition where
  table : String
  comment : Option String
  fields : List (String × String)
  deriving DecidableEq, Repr

structure Field where
  key : String
  rule : Rule
  deriving DecidableEq, Repr

/-- The values of a list of results, or the first error among them. -/
def firstError {ε α : Type} : List (Except ε α) → Except ε (List α)
  | [] => .ok []
  | .error e :: _ => .error e
  | .ok a :: rest =>
      match firstError rest with
      | .error e => .error e
      | .ok as => .ok (a :: as)

theorem firstError_eq_ok_iff {ε α : Type} {rs : List (Except ε α)} {as : List α} :
    firstError rs = .ok as ↔ rs = as.map .ok := by
  induction rs generalizing as with
  | nil => cases as <;> simp [firstError]
  | cons r rest ih =>
      cases r with
      | error e => cases as <;> simp [firstError]
      | ok a =>
          cases as with
          | nil => simp only [firstError]; cases firstError rest <;> simp
          | cons b bs =>
              simp only [firstError, List.map_cons, List.cons.injEq, Except.ok.injEq]
              cases h : firstError rest with
              | error e =>
                  have hne : rest ≠ bs.map Except.ok := by
                    intro he; rw [ih.2 he] at h; simp at h
                  simp [hne]
              | ok cs =>
                  have : cs = bs ↔ rest = bs.map Except.ok := by
                    rw [← ih, h]; simp
                  simp [this]

namespace Definition

/-- The verdict on one occurrence of a key, given the keys before it. -/
def verdict (d : Dialect) (table : String) (earlier : List String) (key raw : String) :
    Except RuleError Field :=
  if key ∈ earlier then .error ⟨table, key, .repeatedKey⟩
  else match Rule.validate d key raw with
    | .ok rule => .ok ⟨key, rule⟩
    | .error fault => .error ⟨table, key, fault⟩

def verdictsAfter (d : Dialect) (table : String) :
    List String → List (String × String) → List (Except RuleError Field)
  | _, [] => []
  | earlier, (key, raw) :: rest =>
      verdict d table earlier key raw :: verdictsAfter d table (key :: earlier) rest

/-- **The verdict on each occurrence of a key**, in the order of the definition. -/
def verdicts (d : Dialect) (declared : Definition) : List (Except RuleError Field) :=
  verdictsAfter d declared.table [] declared.fields

/-- **The fields of a definition**, or the first error among them. -/
def readFields (d : Dialect) (declared : Definition) : Except RuleError (List Field) :=
  firstError (declared.verdicts d)

theorem readFields_eq_ok_iff {d : Dialect} {declared : Definition} {fields : List Field} :
    declared.readFields d = .ok fields ↔ declared.verdicts d = fields.map .ok :=
  firstError_eq_ok_iff

def fieldErrors (d : Dialect) (declared : Definition) : List RuleError :=
  (declared.verdicts d).filterMap fun
    | .error e => some e
    | .ok _ => none

def hasName (declared : Definition) : Bool := !(Text.trim declared.table.toList).isEmpty

/-- **All errors of a definition.** -/
def errors (d : Dialect) (declared : Definition) : List RuleError :=
  (if declared.hasName then [] else [⟨declared.table, "", .blankTable⟩]) ++ declared.fieldErrors d

end Definition

end Conform

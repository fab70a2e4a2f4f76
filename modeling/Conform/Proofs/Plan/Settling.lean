/-
**After its statements a column is settled.**

The statements of one field are applied to its column.  Whatever the combination of changes in
type, length, default and comment, and whichever of them are skipped, nothing is done about the
column that results: what was altered is now reported as wanted, and what was skipped is skipped
again.

Main definitions:

* `settledColumn`, `addedColumn` — the column after the statements about it.

Main results:

* `foldl_effect_review`, `foldl_effect_missing` — the effect of the statements of a field;
* `isSettled_settledColumn`, `isSettled_addedColumn` — **the resulting column is settled**;
* `settled_of_draftField` — both together, for the field of any column.
-/

import Conform.Proofs.Plan.Effect

set_option relaxedAutoImplicit false
set_option autoImplicit false

namespace Conform

variable {d : Dialect} {o : Options} {table : String} {s : Snapshot} {r : Reporting}

/-! ### Steps of a review -/

/-- Whether the default of a column is changed by a clause of its own. -/
def DefaultStep.alters : DefaultStep → Bool
  | alter _ => true
  | keep | restated | unavailable | skipUnsupported => false

theorem DefaultStep.clauses_of_not_alters {step : DefaultStep} (h : step.alters = false) :
    step.clauses = [] := by
  cases step <;> first | rfl | cases h

theorem ShapeStep.clauses_of_not_alters {shape : ShapeStep} (h : shape.alters = false) :
    shape.clauses = [] := by
  cases shape <;> first | rfl | cases h

theorem shapeStep_congr {live live' : LiveColumn} {c : Column} (allowShrink : Bool)
    (htype : live'.type = live.type) (hlength : live'.length = live.length) :
    shapeStep d allowShrink live' c = shapeStep d allowShrink live c := by
  have hsameType : typeChange? live' c = typeChange? live c := by
    rw [typeChange?, typeChange?, htype]
  have hsameLength : lengthChange? live' c = lengthChange? live c := by
    rw [lengthChange?, lengthChange?, hlength]
  have hsameShrink : shrinking? live' c = shrinking? live c := by
    rw [shrinking?, shrinking?, hlength]
  rw [shapeStep, shapeStep, hsameType, hsameLength, hsameShrink]

theorem defaultStep_congr {live live' : LiveColumn} {c : Column} (shape : ShapeStep)
    (htype : live'.type = live.type) (hdefault : live'.default = live.default) :
    defaultStep d shape live' c = defaultStep d shape live c := by
  have hsameDefault : defaultChange? live' c = defaultChange? live c := by
    rw [defaultChange?, defaultChange?, hdefault]
  rw [defaultStep, defaultStep, hsameDefault, htype]

theorem typeChange?_of_shows {live : LiveColumn} {c : Column} (hshows : r.Shows c)
    (htype : live.type = r.type c.type) : typeChange? live c = none := by
  rw [typeChange?, htype, if_pos hshows.type]

theorem lengthChange?_of_shows {live : LiveColumn} {c : Column} (hshows : r.Shows c)
    (hlength : live.length = r.length c.type) : lengthChange? live c = none := by
  unfold lengthChange?
  cases hwanted : c.type.length with
  | none => rfl
  | some n => simp only [hlength, hshows.length n hwanted, if_true]

theorem shapeStep_of_shows {live : LiveColumn} {c : Column} (allowShrink : Bool)
    (hshows : r.Shows c) (htype : live.type = r.type c.type)
    (hlength : live.length = r.length c.type) : shapeStep d allowShrink live c = .keep := by
  rw [shapeStep, typeChange?_of_shows hshows htype, lengthChange?_of_shows hshows hlength]
  rfl

theorem defaultStep_of_shows {live : LiveColumn} {c : Column} (shape : ShapeStep)
    (hshows : r.Shows c) (hdefault : live.default = r.default c.default) :
    defaultStep d shape live c = .keep := by
  have hchange : defaultChange? live c = none := by
    rw [defaultChange?, hdefault, if_pos hshows.default]
  rw [defaultStep, hchange]
  rfl

theorem gate_of_shows {live : LiveColumn} {c : Column} (hshows : r.Shows c)
    (htype : live.type = r.type c.type) : gate d live.type c.type.storage ≠ .refused := by
  rw [gate, htype, if_pos hshows.type]
  exact fun e => by cases e

/-! ### The column after its statements -/

/-- **A live column after the statements of its review.** -/
def settledColumn (r : Reporting) (d : Dialect) (o : Options) (live : LiveColumn) (c : Column) :
    LiveColumn :=
  let shape := shapeStep d o.allowShrink live c
  { type := if shape.alters then r.type c.type else live.type
    length := if shape.alters then r.length c.type else live.length
    nullable := live.nullable
    default :=
      if (shape.alters && d.restatesDefault) || (defaultStep d shape live c).alters then
        r.default c.default
      else live.default
    comment :=
      if (commentChange? (o.statesComments d) live c).isSome then some c.label
      else live.comment }

/-- **A new column after the statements about it.** -/
def addedColumn (r : Reporting) (d : Dialect) (o : Options) (c : Column) : LiveColumn :=
  { r.column c with comment := if o.statesComments d && c.label != "" then some c.label else none }

/-- The column after a step on type and length. -/
def shapedColumn (r : Reporting) (d : Dialect) (shape : ShapeStep) (live : LiveColumn)
    (c : Column) : LiveColumn :=
  { live with
    type := if shape.alters then r.type c.type else live.type
    length := if shape.alters then r.length c.type else live.length
    default := if shape.alters && d.restatesDefault then r.default c.default else live.default }

theorem foldl_effect_shape {allowShrink : Bool} {live : LiveColumn} {c : Column} :
    ((shapeStep d allowShrink live c).clauses.map (Statement.alterTable table)).foldl r.effect
        (some live) =
      some (shapedColumn r d (shapeStep d allowShrink live c) live c) := by
  cases hshape : shapeStep d allowShrink live c with
  | alter k =>
      have hretype := retype?_of_shapeStep hshape
      cases d <;> simp only [Clause.retype?, Option.some.injEq, reduceCtorEq] at hretype <;>
        subst hretype <;> rfl
  | keep => rfl
  | skipShrink _ _ => rfl
  | skipUnsupported => rfl

theorem foldl_effect_default {shape : ShapeStep} {live before : LiveColumn} {c : Column} :
    ((defaultStep d shape live c).clauses.map (Statement.alterTable table)).foldl r.effect
        (some before) =
      some (if (defaultStep d shape live c).alters then
        { before with default := r.default c.default } else before) := by
  cases hstep : defaultStep d shape live c with
  | alter k =>
      have hclause := Clause.eq_of_redefault? (redefault?_of_defaultStep hstep)
      subst hclause
      rfl
  | keep => rfl
  | restated => rfl
  | unavailable => rfl
  | skipUnsupported => rfl

/-- **The effect of the statements of a reviewed column.** -/
theorem foldl_effect_review {live : LiveColumn} {c : Column} :
    (((review d o live c).draft table c.key).statements table).foldl r.effect (some live) =
      some (settledColumn r d o live c) := by
  simp only [Draft.statements, Review.draft, shape_review, default_review, comment_review,
    List.append_nil, List.map_append, List.foldl_append, foldl_effect_shape, foldl_effect_default]
  cases hcomment : commentChange? (o.statesComments d) live c with
  | none =>
      simp only [settledColumn, shapedColumn, hcomment, Option.map_none, Option.toList_none,
        List.foldl_nil, Option.isSome_none]
      split <;> simp_all
  | some ch =>
      simp only [settledColumn, shapedColumn, hcomment, Option.map_some, Option.toList_some,
        List.foldl_cons, List.foldl_nil, Option.isSome_some, Reporting.effect, Reporting.change,
        wanted_of_commentChange? hcomment]
      split <;> simp_all

/-- **The effect of the statements of a missing column.** -/
theorem foldl_effect_missing (table : String) (c : Column) :
    ((draftMissing d o table c).statements table).foldl r.effect none =
      some (addedColumn r d o c) := by
  simp only [Draft.statements, draftMissing, labelStatement?, addedColumn]
  by_cases hstates : o.statesComments d = true
  · by_cases hlabel : c.label = ""
    · simp [hstates, hlabel, Reporting.effect, Reporting.column]
    · simp [hstates, hlabel, Reporting.effect, Reporting.change, Reporting.column]
  · simp [hstates, Reporting.effect, Reporting.column]

/-! ### Nothing is left to be done -/

/-- The comment of a column after the statements about it is its label, where comments count. -/
theorem commentChange?_settledColumn (live : LiveColumn) (c : Column) :
    commentChange? (o.statesComments d) (settledColumn r d o live c) c = none := by
  cases hcomment : commentChange? (o.statesComments d) live c with
  | some ch =>
      have hlabel : (settledColumn r d o live c).comment = some c.label := by
        simp [settledColumn, hcomment]
      rw [commentChange?, hlabel]
      simp
  | none =>
      have hsame : (settledColumn r d o live c).comment = live.comment := by
        simp [settledColumn, hcomment]
      rw [commentChange?] at hcomment ⊢
      rw [hsame]
      exact hcomment

/-- Where neither the clause on the type nor one of its own sets the default of a column, the
dialect cannot set it. -/
theorem clauses_of_left_default {live live' : LiveColumn} {c : Column} {shape shape' : ShapeStep}
    (hrestated : (shape.alters && d.restatesDefault) = false)
    (hstep : (defaultStep d shape live c).alters = false)
    (hdefault : live'.default = live.default) (htype : d = .mysql → live'.type = live.type) :
    (defaultStep d shape' live' c).clauses = [] := by
  have hsame : defaultChange? live' c = defaultChange? live c := by
    rw [defaultChange?, defaultChange?, hdefault]
  rw [defaultStep, hrestated] at hstep
  rw [defaultStep, hsame]
  cases hchange : defaultChange? live c with
  | none => rfl
  | some ch =>
      simp only [hchange, Option.isNone_some, Bool.false_eq_true, if_false] at hstep ⊢
      split
      · rfl
      · cases d with
        | mysql =>
            rw [htype rfl]
            cases hclause : Clause.redefault? .mysql c live.type with
            | none => rfl
            | some k => rw [hclause] at hstep; cases hstep
        | postgres => cases hstep
        | sqlite => rfl

/-- **Nothing is done about a live column after the statements of its review.** -/
theorem isSettled_settledColumn {live : LiveColumn} {c : Column} (hshows : r.Shows c)
    (hgate : gate d live.type c.type.storage ≠ .refused) :
    IsSettled d o (settledColumn r d o live c) c := by
  by_cases haltered : (shapeStep d o.allowShrink live c).alters = true
  · -- the type and the length are the wanted ones now
    have htype : (settledColumn r d o live c).type = r.type c.type := by
      simp [settledColumn, haltered]
    have hlength : (settledColumn r d o live c).length = r.length c.type := by
      simp [settledColumn, haltered]
    have hshape := shapeStep_of_shows (d := d) o.allowShrink hshows htype hlength
    refine ⟨gate_of_shows hshows htype, by rw [hshape]; rfl, ?_,
      commentChange?_settledColumn live c⟩
    rw [hshape]
    by_cases hset : ((shapeStep d o.allowShrink live c).alters && d.restatesDefault ||
        (defaultStep d (shapeStep d o.allowShrink live c) live c).alters) = true
    · have hdefault : (settledColumn r d o live c).default = r.default c.default := by
        simp only [settledColumn, hset, if_true]
      rw [defaultStep_of_shows _ hshows hdefault]
      rfl
    · rw [Bool.not_eq_true, Bool.or_eq_false_iff] at hset
      have hdefault : (settledColumn r d o live c).default = live.default := by
        simp only [settledColumn, hset.1, hset.2, Bool.or_self, Bool.false_eq_true, if_false]
      refine clauses_of_left_default hset.1 hset.2 hdefault fun hmysql => ?_
      -- under MySQL the clause on the type states the default too
      rw [haltered, hmysql] at hset
      exact absurd hset.1 (by decide)
  · -- what was skipped is skipped again
    rw [Bool.not_eq_true] at haltered
    have htype : (settledColumn r d o live c).type = live.type := by
      simp [settledColumn, haltered]
    have hlength : (settledColumn r d o live c).length = live.length := by
      simp [settledColumn, haltered]
    have hshape := shapeStep_congr (d := d) (c := c) o.allowShrink htype hlength
    refine ⟨by rw [htype]; exact hgate, ?_, ?_, commentChange?_settledColumn live c⟩
    · rw [hshape]
      exact ShapeStep.clauses_of_not_alters haltered
    · rw [hshape]
      by_cases hset : (defaultStep d (shapeStep d o.allowShrink live c) live c).alters = true
      · have hdefault : (settledColumn r d o live c).default = r.default c.default := by
          simp only [settledColumn, hset, Bool.or_true, if_true]
        rw [defaultStep_of_shows _ hshows hdefault]
        rfl
      · rw [Bool.not_eq_true] at hset
        have hdefault : (settledColumn r d o live c).default = live.default := by
          simp only [settledColumn, haltered, hset, Bool.false_and, Bool.or_self,
            Bool.false_eq_true, if_false]
        rw [defaultStep_congr _ htype hdefault]
        exact DefaultStep.clauses_of_not_alters hset

/-- **Nothing is done about a new column.** -/
theorem isSettled_addedColumn {c : Column} (hshows : r.Shows c) :
    IsSettled d o (addedColumn r d o c) c := by
  have hshape : shapeStep d o.allowShrink (addedColumn r d o c) c = .keep :=
    shapeStep_of_shows o.allowShrink hshows rfl rfl
  refine ⟨gate_of_shows hshows rfl, by rw [hshape]; rfl, ?_, ?_⟩
  · rw [defaultStep_of_shows _ hshows rfl]
    rfl
  · unfold commentChange? addedColumn
    by_cases hstates : o.statesComments d = true
    · by_cases hlabel : c.label = "" <;> simp [hstates, hlabel]
    · simp [hstates]

/-- **After the statements of a field its column is there and settled.** -/
theorem settled_of_draftField {f : Field} {a : Draft} (hshows : r.Shows (f.column d))
    (h : draftField d o table s f = .ok a) :
    ∃ live, (a.statements table).foldl r.effect s.columns[f.key]? = some live ∧
      IsSettled d o live (f.column d) := by
  cases hlive : s.columns[f.key]? with
  | none =>
      rw [draftField_of_none hlive] at h
      cases h
      exact ⟨_, foldl_effect_missing table _, isSettled_addedColumn hshows⟩
  | some live =>
      rw [draftField_of_some hlive] at h
      split at h
      · cases h
      next hgate =>
        cases h
        exact ⟨_, foldl_effect_review (c := f.column d), isSettled_settledColumn hshows hgate⟩

end Conform

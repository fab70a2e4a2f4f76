/-
**The spelling of a live type is not looked at.**

A plan compares live types with wanted ones, admits changes between them, and asks which of them are
long texts.  All of this goes by the keyword of a type.  So two snapshots that spell some types in
different ways have the same plan with the same counters, or the same column is refused in both; the
spelling itself is only shown, in the log and in the message of the refusal.

Main definitions:

* `LiveColumn.Respelled`, `Snapshot.Respelled` — that only the spelling of types differs;
* `TypeRefusal.target` — what a refusal is about, without the spelling that it shows.

Main results:

* `LiveColumn.Respelled.aspects_changes` — a column differs in the same aspects;
* `LiveColumn.Respelled.draft_review` — **and the same is done about it**;
* `planLiveTable_respelled` — **respelled snapshots have the same plan**, or the same refusal.
-/

import Conform.Proofs.Live.Spellings
import Conform.Proofs.Plan.Indexes
import Conform.Proofs.Plan.Tallies
import Conform.Proofs.Sync.Refusals

set_option relaxedAutoImplicit false
set_option autoImplicit false

namespace Conform

/-! ### Respelled columns -/

/-- **That two columns are reported alike but for the spelling of the type.** -/
structure LiveColumn.Respelled (live live' : LiveColumn) : Prop where
  type : TypeName.Alike live.type live'.type
  length : live.length = live'.length
  nullable : live.nullable = live'.nullable
  default : live.default = live'.default
  comment : live.comment = live'.comment

/-- Differences in the same aspects are counted alike. -/
theorem Counters.ofChanges_congr {cs cs' : List Change}
    (h : cs.map (·.aspect) = cs'.map (·.aspect)) :
    Counters.ofChanges cs = Counters.ofChanges cs' := by
  have hcount : ∀ a : Aspect, cs.countP (·.aspect = a) = cs'.countP (·.aspect = a) := by
    intro a
    have hmap : ∀ l : List Change,
        l.countP (·.aspect = a) = (l.map (·.aspect)).countP fun b => decide (b = a) := by
      intro l
      rw [List.countP_map]
      rfl
    rw [hmap, hmap, h]
  simp only [Counters.ofChanges_eq, hcount]

namespace LiveColumn.Respelled

variable {live live' : LiveColumn} (h : live.Respelled live') {d : Dialect} {o : Options}
  {table key : String} {c : Column}

include h in
/-- The types differ in one spelling as they do in the other; only the message tells them apart. -/
theorem aspect_typeChange? :
    (typeChange? live c).map (·.aspect) = (typeChange? live' c).map (·.aspect) := by
  simp only [typeChange?, h.type.same_eq]
  split <;> rfl

include h in
theorem lengthChange?_eq : lengthChange? live c = lengthChange? live' c := by
  simp only [lengthChange?, h.length]

include h in
theorem defaultChange?_eq : defaultChange? live c = defaultChange? live' c := by
  simp only [defaultChange?, h.default]

include h in
theorem commentChange?_eq (compared : Bool) :
    commentChange? compared live c = commentChange? compared live' c := by
  simp only [commentChange?, h.comment]

include h in
/-- **The columns differ from the wanted one in the same aspects.** -/
theorem aspects_changes (compared : Bool) :
    (changes compared live c).map (·.aspect) = (changes compared live' c).map (·.aspect) := by
  have htype := congrArg Option.toList (h.aspect_typeChange? (c := c))
  simp only [Option.toList_map] at htype
  simp only [changes, List.map_append, htype, h.lengthChange?_eq, h.defaultChange?_eq,
    h.commentChange?_eq]

include h in
/-- A change of type is admitted for both or for neither, and for the same reason. -/
theorem gate_eq (wanted : Storage) : gate d live.type wanted = gate d live'.type wanted := by
  simp only [gate, h.type.same_eq, h.type.isString_eq, h.type.widens_eq]

include h in
theorem shapeStep_eq (allowShrink : Bool) :
    shapeStep d allowShrink live c = shapeStep d allowShrink live' c := by
  have htype : (typeChange? live c).isNone = (typeChange? live' c).isNone := by
    rw [← Option.isNone_map (f := (·.aspect)), h.aspect_typeChange?, Option.isNone_map]
  simp only [shapeStep, htype, h.lengthChange?_eq, shrinking?, h.length]

include h in
theorem defaultStep_eq (shape : ShapeStep) :
    defaultStep d shape live c = defaultStep d shape live' c := by
  simp only [defaultStep, h.defaultChange?_eq, Clause.redefault?, h.type.isText_eq]

include h in
/-- **What is done about a column does not depend on the spelling of its type.** -/
theorem draft_review :
    (review d o live c).draft table key = (review d o live' c).draft table key := by
  simp only [review, Review.draft, h.shapeStep_eq, h.defaultStep_eq, h.commentChange?_eq,
    Counters.ofChanges_congr (h.aspects_changes _)]

end LiveColumn.Respelled

/-! ### Respelled snapshots -/

/-- **That two snapshots differ only in the spelling of types**: they report the same indexes and
columns of the same names, each of them alike but for its type. -/
structure Snapshot.Respelled (s s' : Snapshot) : Prop where
  columns : ∀ key : String, Option.Rel LiveColumn.Respelled s.columns[key]? s'.columns[key]?
  indexes : s.indexes = s'.indexes

/-- **What a refusal is about**: the table, the column and the type that it should have. -/
def TypeRefusal.target (e : TypeRefusal) : String × String × String :=
  (e.table, e.column, e.wanted)

/-- Two results are the same but for what an error shows. -/
theorem mapError_eq_mapError_iff {α β ε : Type} {f : ε → β} {x y : Except ε α} :
    x.mapError f = y.mapError f ↔
      (∃ a, x = .ok a ∧ y = .ok a) ∨ ∃ e e', x = .error e ∧ y = .error e' ∧ f e = f e' := by
  cases x <;> cases y <;> simp [Except.mapError, eq_comm]

section Plans

variable {s s' : Snapshot} (h : s.Respelled s') (d : Dialect) (o : Options) (table : String)

include h in
/-- A field is drafted alike, or its column is refused in both. -/
theorem draftField_respelled (f : Field) :
    (draftField d o table s f).mapError TypeRefusal.target =
      (draftField d o table s' f).mapError TypeRefusal.target := by
  have hcolumn := h.columns f.key
  cases hlive : s.columns[f.key]? with
  | none =>
      rw [hlive] at hcolumn
      cases hlive' : s'.columns[f.key]? with
      | none => rw [draftField_of_none hlive, draftField_of_none hlive']
      | some live' => rw [hlive'] at hcolumn; cases hcolumn
  | some live =>
      rw [hlive] at hcolumn
      cases hlive' : s'.columns[f.key]? with
      | none => rw [hlive'] at hcolumn; cases hcolumn
      | some live' =>
          rw [hlive'] at hcolumn
          obtain ⟨halike⟩ := hcolumn
          rw [draftField_of_some hlive, draftField_of_some hlive', halike.gate_eq,
            halike.draft_review]
          split <;> rfl

include h in
/-- The fields are drafted alike, or the same one is the first to be refused. -/
theorem draftFields_respelled (fields : List Field) :
    (draftFields d o table s fields).mapError TypeRefusal.target =
      (draftFields d o table s' fields).mapError TypeRefusal.target := by
  induction fields with
  | nil => rfl
  | cons f fs ih =>
      have hfirst := draftField_respelled h d o table f
      rw [draftFields, draftFields]
      obtain ⟨a, ha, ha'⟩ | ⟨e, e', he, he', htarget⟩ := mapError_eq_mapError_iff.1 hfirst
      · obtain ⟨b, hb, hb'⟩ | ⟨e, e', he, he', htarget⟩ := mapError_eq_mapError_iff.1 ih
        · rw [ha, ha', hb, hb']
        · rw [ha, ha', he, he']
          exact congrArg Except.error htarget
      · rw [he, he']
        exact congrArg Except.error htarget

include h in
/-- Index changes look at indexes and at whether columns are there. -/
theorem indexChanges_respelled (columns : List Column) :
    indexChanges table s columns = indexChanges table s' columns := by
  refine indexChanges_congr h.indexes (fun key _ => ?_) columns
  have hcolumn := h.columns key
  rw [contains_iff, contains_iff]
  generalize s.columns[key]? = live, s'.columns[key]? = live' at hcolumn
  cases hcolumn <;> rfl

end Plans

/-- **Respelled snapshots have the same plan with the same counters**, or a refusal that names the
same table, column and wanted type. -/
theorem planLiveTable_respelled (d : Dialect) (o : Options) (table : String) (fields : List Field)
    {s s' : Snapshot} (h : s.Respelled s') :
    (planLiveTable d o table fields s).mapError TypeRefusal.target =
      (planLiveTable d o table fields s').mapError TypeRefusal.target := by
  rw [planLiveTable, planLiveTable, draftIndexes_eq, draftIndexes_eq, indexChanges_respelled h]
  obtain ⟨a, ha, ha'⟩ | ⟨e, e', he, he', htarget⟩ :=
    mapError_eq_mapError_iff.1 (draftFields_respelled h d o table fields)
  · rw [ha, ha']
  · rw [he, he']
    exact congrArg Except.error htarget

/-! ### Users whose types are spelled in two ways -/

/-- Users whose addresses are too short and whose ages are texts, with spellings of both types. -/
def spelledUsers (address age : String) : Snapshot :=
  ⟨(Std.ExtTreeMap.insert ∅ "email" ⟨address, some 10, true, none, none⟩).insert "age"
    ⟨age, some 3, true, none, none⟩, ∅⟩

theorem spelledUsers_respelled {address address' age age' : String}
    (haddress : TypeName.Alike address address') (hage : TypeName.Alike age age') :
    (spelledUsers address age).Respelled (spelledUsers address' age') := by
  refine ⟨fun key => ?_, rfl⟩
  simp only [spelledUsers, Std.ExtTreeMap.getElem?_insert]
  split
  · exact .some ⟨hage, rfl, rfl, rfl, rfl⟩
  · split
    · exact .some ⟨haddress, rfl, rfl, rfl, rfl⟩
    · simp only [Std.ExtTreeMap.getElem?_empty]
      exact .none

/-- The users in small letters, and in capitals with lengths and a character set. -/
theorem spelledUsers_capitals :
    (spelledUsers "varchar" "text").Respelled (spelledUsers " VARCHAR (10) BINARY" "TEXT(3)") :=
  spelledUsers_respelled (TypeName.alike_iff.2 (by decide +kernel))
    (TypeName.alike_iff.2 (by decide +kernel))

/-- For both spellings the addresses are made longer by one plan, and the ages are refused. -/
theorem planLiveTable_respelled_users :
    (∃ p, planLiveTable .mysql {} "user" [addressField] (spelledUsers "varchar" "text") = .ok p ∧
      planLiveTable .mysql {} "user" [addressField]
        (spelledUsers " VARCHAR (10) BINARY" "TEXT(3)") = .ok p) ∧
      ∃ e e', planLiveTable .mysql {} "user" [addressField, ageField]
          (spelledUsers "varchar" "text") = .error e ∧
        planLiveTable .mysql {} "user" [addressField, ageField]
          (spelledUsers " VARCHAR (10) BINARY" "TEXT(3)") = .error e' ∧
        e.target = ("user", "age", "BIGINT") ∧ e'.target = ("user", "age", "BIGINT") := by
  have hrefused : (planLiveTable .mysql {} "user" [addressField, ageField]
      (spelledUsers "varchar" "text")).mapError TypeRefusal.target =
        .error ("user", "age", "BIGINT") := by decide +kernel
  have hplanned : (planLiveTable .mysql {} "user" [addressField]
      (spelledUsers "varchar" "text")).toOption.isSome = true := by decide +kernel
  have hplans := mapError_eq_mapError_iff.1
    (planLiveTable_respelled .mysql {} "user" [addressField] spelledUsers_capitals)
  have hrefusals := mapError_eq_mapError_iff.1
    (planLiveTable_respelled .mysql {} "user" [addressField, ageField] spelledUsers_capitals)
  constructor
  · obtain ⟨p, hp, hp'⟩ | ⟨e, -, he, -⟩ := hplans
    · exact ⟨p, hp, hp'⟩
    · rw [he] at hplanned
      cases hplanned
  · obtain ⟨p, hp, -⟩ | ⟨e, e', he, he', htarget⟩ := hrefusals
    · rw [hp] at hrefused
      cases hrefused
    · rw [he] at hrefused
      have hshown : e.target = ("user", "age", "BIGINT") := Except.error.inj hrefused
      exact ⟨e, e', he, he', hshown, htarget.symm.trans hshown⟩

end Conform

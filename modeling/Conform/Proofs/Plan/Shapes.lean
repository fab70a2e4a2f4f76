/-
**Only the shape of a column reaches the database.**

A plan looks at a field through its column.  Two rules give the same column when they differ in
their patterns, in their lower bounds, in the upper bounds of numbers, in blanks around the parts
that are trimmed, and in whether strings and long texts are single or come in arrays.  Definitions
whose rules differ in no other way have the same plans, and are refused alike.

Main definitions:

* `Rule.Parts.SameShape` — that two rules, as they are written, describe the same column;
* `Definition.SameShape` — that two definitions do, column by column.

Main results:

* `planNewTable_congr_columns`, `planLiveTable_congr_columns` — plans look at columns only;
* `Rule.Parts.SameShape.column_eq` — rules of the same shape give the same column;
* `columns_of_sameShape` — so do the definitions made of them;
* `planned_alike` — **definitions of the same shape have the same plans**.
-/

import Conform.Plan.LiveTable
import Conform.Proofs.Rule.Grammar

set_option relaxedAutoImplicit false
set_option autoImplicit false

namespace Conform

variable {d : Dialect} {o : Options} {table : String} {comment : Option String} {s : Snapshot}
  {xs ys : List Field}

/-! ### Plans look at columns only -/

theorem draftField_congr_column {x y : Field} (h : x.column d = y.column d) :
    draftField d o table s x = draftField d o table s y := by
  simp only [draftField, h]

theorem draftFields_congr_columns (h : xs.map (·.column d) = ys.map (·.column d)) :
    draftFields d o table s xs = draftFields d o table s ys := by
  induction xs generalizing ys with
  | nil => rw [List.map_eq_nil_iff.1 h.symm]
  | cons x xs ih =>
      cases ys with
      | nil => cases h
      | cons y ys =>
          obtain ⟨hhead, htail⟩ := List.cons.inj h
          rw [draftFields, draftFields, draftField_congr_column hhead, ih htail]

/-- **The plan for an existing table looks at columns only**, and so does its refusal. -/
theorem planLiveTable_congr_columns (h : xs.map (·.column d) = ys.map (·.column d)) :
    planLiveTable d o table xs s = planLiveTable d o table ys s := by
  simp only [planLiveTable, draftFields_congr_columns h, h]

/-- **The plan that makes a table looks at columns only.** -/
theorem planNewTable_congr_columns (h : xs.map (·.column d) = ys.map (·.column d)) :
    planNewTable d o table xs comment = planNewTable d o table ys comment := by
  simp only [planNewTable, h]

/-! ### Kinds that are stored alike -/

/-- The names of the kinds that are stored as strings of bounded length. -/
def stringNames : List String := ["string", "array", "array_string"]

/-- The names of the kinds that are stored as long texts. -/
def textNames : List String := ["text", "array_text"]

/-- **Two names of kinds that are stored alike.** -/
def StoredAlike (name name' : String) : Prop :=
  name = name' ∨ (name ∈ stringNames ∧ name' ∈ stringNames) ∨
    (name ∈ textNames ∧ name' ∈ textNames)

namespace Kind

theorem of_mem_stringNames {name : String} {k : Kind} (hname : name ∈ k.names)
    (h : name ∈ stringNames) : k = .string ∨ k = .arrayString := by
  simp only [stringNames, List.mem_cons, List.not_mem_nil, or_false] at h
  rcases h with rfl | rfl | rfl <;> cases k <;> simp_all [names]

theorem of_mem_textNames {name : String} {k : Kind} (hname : name ∈ k.names)
    (h : name ∈ textNames) : k = .text ∨ k = .arrayText := by
  simp only [textNames, List.mem_cons, List.not_mem_nil, or_false] at h
  rcases h with rfl | rfl <;> cases k <;> simp_all [names]

/-- Two kinds that cannot be told apart once they are stored. -/
structure Alike (k k' : Kind) : Prop where
  storage : ∀ d, k.storage d = k'.storage d
  bounded : k.isBounded = k'.isBounded
  number : k = .number ↔ k' = .number

theorem Alike.refl (k : Kind) : k.Alike k := ⟨fun _ => rfl, rfl, Iff.rfl⟩

theorem alike_of_names {name name' : String} {k k' : Kind} (hname : name ∈ k.names)
    (hname' : name' ∈ k'.names) (h : StoredAlike name name') : k.Alike k' := by
  rcases h with rfl | ⟨h, h'⟩ | ⟨h, h'⟩
  · have hsame : some k = some k' :=
      (ofName?_eq_some_iff.2 hname).symm.trans (ofName?_eq_some_iff.2 hname')
    rw [Option.some.inj hsame]
    exact .refl k'
  · rcases of_mem_stringNames hname h with rfl | rfl <;>
      rcases of_mem_stringNames hname' h' with rfl | rfl <;>
      exact ⟨fun _ => rfl, rfl, by decide⟩
  · rcases of_mem_textNames hname h with rfl | rfl <;>
      rcases of_mem_textNames hname' h' with rfl | rfl <;>
      exact ⟨fun _ => rfl, rfl, by decide⟩

end Kind

/-! ### Rules of the same shape -/

namespace Rule

/-- **That two rules, as they are written, describe the same column.**  The lower bounds and the
patterns are free, and so are the upper bounds of numbers. -/
structure Parts.SameShape (p q : Parts) : Prop where
  label : Text.trim p.label = Text.trim q.label
  kind : StoredAlike (String.ofList (Text.trim p.kind)) (String.ofList (Text.trim q.kind))
  upper : Text.trim p.upper = Text.trim q.upper ∨
    (String.ofList (Text.trim p.kind) = "number" ∧ String.ofList (Text.trim q.kind) = "number")
  default : p.default = q.default
  flag : Text.trim p.flag = Text.trim q.flag

/-- A bound is that of its trimmed part. -/
theorem SpellsBound.unique {part part' : List Char} {b b' : Option Binary64}
    (htrim : Text.trim part = Text.trim part') (h : SpellsBound part b)
    (h' : SpellsBound part' b') : b = b' := by
  have hread : readBound .upper part = readBound .upper part' := by
    simp only [readBound, htrim]
  exact Except.ok.inj
    ((readBound_eq_ok_iff.2 h).symm.trans (hread.trans (readBound_eq_ok_iff.2 h')))

/-- A default is read from its part with regard to whether the kind is that of numbers only. -/
theorem SpellsDefault.unique {k k' : Kind} {part : List Char} {v v' : Default}
    (hnumber : k = .number ↔ k' = .number) (h : SpellsDefault k part v)
    (h' : SpellsDefault k' part v') : v = v' := by
  have hread : readDefault k part = readDefault k' part := by
    simp only [readDefault, hnumber]
  exact Except.ok.inj
    ((readDefault_eq_ok_iff.2 h).symm.trans (hread.trans (readDefault_eq_ok_iff.2 h')))

theorem flagMark_inj {b b' : Bool} (h : flagMark b = flagMark b') : b = b' := by
  cases b <;> cases b' <;> simp_all [flagMark]

variable {p q : Parts} {r r' : Rule}

/-- A kind that is named as that of numbers is not bounded. -/
theorem Parts.Says.not_bounded (h : p.Says r)
    (hnumber : String.ofList (Text.trim p.kind) = "number") : r.kind.isBounded = false := by
  have hname := Kind.ofName?_eq_some_iff.2 h.kind
  rw [hnumber] at hname
  rw [← Option.some.inj hname]
  rfl

/-- The length of a column depends on the upper bound of a bounded kind only. -/
theorem Parts.SameShape.length_eq (h : p.SameShape q) (hp : p.Says r) (hq : q.Says r')
    (hbounded : r.kind.isBounded = r'.kind.isBounded) : r.length = r'.length := by
  unfold Rule.length
  rw [← hbounded]
  rcases h.upper with hupper | ⟨hnumber, -⟩
  · rw [SpellsBound.unique hupper hp.upper hq.upper]
  · rw [hp.not_bounded hnumber]
    rfl

/-- **Rules of the same shape give the same column.** -/
theorem Parts.SameShape.column_eq (h : p.SameShape q) (hp : p.Says r) (hq : q.Says r')
    (key : String) : Field.column d ⟨key, r⟩ = Field.column d ⟨key, r'⟩ := by
  have halike : r.kind.Alike r'.kind := Kind.alike_of_names hp.kind hq.kind h.kind
  have hlabel : r.label = r'.label := by rw [hp.label, hq.label, h.label]
  have hlength : r.length = r'.length := h.length_eq hp hq halike.bounded
  have hdefault : r.default = r'.default :=
    SpellsDefault.unique halike.number hp.default (h.default ▸ hq.default)
  have hflag : r.indexed = r'.indexed :=
    flagMark_inj (hp.flag.symm.trans (h.flag.trans hq.flag))
  simp only [Field.column, Kind.columnType, halike.storage, halike.bounded, hlabel, hlength,
    hdefault, hflag]

end Rule

/-! ### Definitions of the same shape -/

/-- **That two keys with their rules declare the same column.** -/
def SameDeclaration (w w' : String × String) : Prop :=
  w.1 = w'.1 ∧ ∃ p q : Rule.Parts, p.Separate ∧ q.Separate ∧ w.2 = p.write ∧ w'.2 = q.write ∧
    p.SameShape q

/-- **That two definitions declare the same table**, column by column and in the same order. -/
structure Definition.SameShape (t t' : Definition) : Prop where
  table : t.table = t'.table
  comment : t.comment = t'.comment
  fields : List.Forall₂ SameDeclaration t.fields t'.fields

/-- Two fields that are read from the same declaration stand for the same column. -/
theorem SameDeclaration.column_eq {w w' : String × String} (h : SameDeclaration w w') {x y : Field}
    (hx : (x.key, Except.ok x.rule) = (w.1, Rule.validate d w.1 w.2))
    (hy : (y.key, Except.ok y.rule) = (w'.1, Rule.validate d w'.1 w'.2)) :
    x.column d = y.column d := by
  obtain ⟨hkey, p, q, hp, hq, hwrite, hwrite', hshape⟩ := h
  obtain ⟨hxkey, hxrule⟩ := Prod.mk.inj hx
  obtain ⟨hykey, hyrule⟩ := Prod.mk.inj hy
  obtain ⟨-, hparse, -⟩ := Rule.validate_eq_ok_iff.1 hxrule.symm
  obtain ⟨-, hparse', -⟩ := Rule.validate_eq_ok_iff.1 hyrule.symm
  rw [hwrite, Rule.parse_write_eq_ok_iff hp] at hparse
  rw [hwrite', Rule.parse_write_eq_ok_iff hq] at hparse'
  have hcolumn := hshape.column_eq (d := d) hparse hparse' x.key
  have hsame : x.key = y.key := hxkey.trans (hkey.trans hykey.symm)
  rw [hcolumn, hsame]

theorem columns_of_forall₂ {written written' : List (String × String)}
    (h : List.Forall₂ SameDeclaration written written')
    (hx : xs.map (fun f => (f.key, Except.ok f.rule)) =
      written.map fun w => (w.1, Rule.validate d w.1 w.2))
    (hy : ys.map (fun f => (f.key, Except.ok f.rule)) =
      written'.map fun w => (w.1, Rule.validate d w.1 w.2)) :
    xs.map (·.column d) = ys.map (·.column d) := by
  induction h generalizing xs ys with
  | nil => rw [List.map_eq_nil_iff.1 hx, List.map_eq_nil_iff.1 hy]
  | cons hw _ ih =>
      cases xs with
      | nil => cases hx
      | cons x xs =>
          cases ys with
          | nil => cases hy
          | cons y ys =>
              obtain ⟨hxhead, hxtail⟩ := List.cons.inj hx
              obtain ⟨hyhead, hytail⟩ := List.cons.inj hy
              rw [List.map_cons, List.map_cons, hw.column_eq hxhead hyhead, ih hxtail hytail]

variable {t t' : Definition}

/-- **Definitions of the same shape have the same columns.** -/
theorem columns_of_sameShape (h : t.SameShape t') (hread : t.readFields d = .ok xs)
    (hread' : t'.readFields d = .ok ys) : xs.map (·.column d) = ys.map (·.column d) :=
  columns_of_forall₂ h.fields (map_field_of_readFields hread) (map_field_of_readFields hread')

/-- **Definitions of the same shape have the same plans.**  A table is made for both in the same
way; an existing one is brought up to date in the same way, or refused for the same change of
type. -/
theorem planned_alike (o : Options) (h : t.SameShape t') (hread : t.readFields d = .ok xs)
    (hread' : t'.readFields d = .ok ys) :
    planNewTable d o t.table xs t.comment = planNewTable d o t'.table ys t'.comment ∧
      ∀ s, planLiveTable d o t.table xs s = planLiveTable d o t'.table ys s := by
  have hcolumns := columns_of_sameShape h hread hread'
  rw [h.table, h.comment]
  exact ⟨planNewTable_congr_columns hcolumns, fun s => planLiveTable_congr_columns hcolumns⟩

/-! ### Two spellings of one table -/

/-- A table of members, with a bounded string, a number and a long text. -/
def members : Definition :=
  ⟨"member", none,
    [("email", "mail|string|0|20|null|1|null"), ("age", "age|number|0|200|18|0|null"),
      ("bio", "bio|text|null|null|null|0|null")]⟩

/-- The table of members with other kinds, bounds, patterns and blanks. -/
def respelledMembers : Definition :=
  ⟨"member", none,
    [("email", " mail |array|5| 20|null|1 |a|b"), ("age", "age| number|null|null|18|0|^1"),
      ("bio", "bio|array_text|null|null|null|0|.*")]⟩

def memberFields : List Field :=
  [⟨"email", ⟨"mail", .string, some ⟨false, 0⟩, some ⟨false, 20 * Binary64.one⟩, .absent, true,
      none⟩⟩,
    ⟨"age", ⟨"age", .number, some ⟨false, 0⟩, some ⟨false, 200 * Binary64.one⟩, .number 18, false,
      none⟩⟩,
    ⟨"bio", ⟨"bio", .text, none, none, .absent, false, none⟩⟩]

def respelledMemberFields : List Field :=
  [⟨"email", ⟨"mail", .arrayString, some ⟨false, 5 * Binary64.one⟩,
      some ⟨false, 20 * Binary64.one⟩, .absent, true, some "a|b"⟩⟩,
    ⟨"age", ⟨"age", .number, none, none, .number 18, false, some "^1"⟩⟩,
    ⟨"bio", ⟨"bio", .arrayText, none, none, .absent, false, some ".*"⟩⟩]

theorem sameShape_members : members.SameShape respelledMembers where
  table := rfl
  comment := rfl
  fields := by
    have hmail : SameDeclaration ("email", "mail|string|0|20|null|1|null")
        ("email", " mail |array|5| 20|null|1 |a|b") :=
      ⟨rfl, ⟨"mail".toList, "string".toList, "0".toList, "20".toList, "null".toList, "1".toList,
          "null".toList⟩,
        ⟨" mail ".toList, "array".toList, "5".toList, " 20".toList, "null".toList, "1 ".toList,
          "a|b".toList⟩,
        by decide, by decide, by decide +kernel, by decide +kernel,
        ⟨by decide, .inr (.inl (by decide)), .inl (by decide), rfl, by decide⟩⟩
    have hage : SameDeclaration ("age", "age|number|0|200|18|0|null")
        ("age", "age| number|null|null|18|0|^1") :=
      ⟨rfl, ⟨"age".toList, "number".toList, "0".toList, "200".toList, "18".toList, "0".toList,
          "null".toList⟩,
        ⟨"age".toList, " number".toList, "null".toList, "null".toList, "18".toList, "0".toList,
          "^1".toList⟩,
        by decide, by decide, by decide +kernel, by decide +kernel,
        ⟨by decide, .inl (by decide), .inr (by decide), rfl, by decide⟩⟩
    have hbio : SameDeclaration ("bio", "bio|text|null|null|null|0|null")
        ("bio", "bio|array_text|null|null|null|0|.*") :=
      ⟨rfl, ⟨"bio".toList, "text".toList, "null".toList, "null".toList, "null".toList, "0".toList,
          "null".toList⟩,
        ⟨"bio".toList, "array_text".toList, "null".toList, "null".toList, "null".toList,
          "0".toList, ".*".toList⟩,
        by decide, by decide, by decide +kernel, by decide +kernel,
        ⟨by decide, .inr (.inr (by decide)), .inl (by decide), rfl, by decide⟩⟩
    exact .cons hmail (.cons hage (.cons hbio .nil))

/-- The two spellings are read as different fields, and are planned alike. -/
theorem planned_alike_members :
    memberFields ≠ respelledMemberFields ∧ members.SameShape respelledMembers ∧
      members.readFields .mysql = .ok memberFields ∧
      respelledMembers.readFields .mysql = .ok respelledMemberFields ∧
      (planNewTable .mysql {} "member" memberFields none =
          planNewTable .mysql {} "member" respelledMemberFields none ∧
        ∀ s, planLiveTable .mysql {} "member" memberFields s =
          planLiveTable .mysql {} "member" respelledMemberFields s) := by
  have hread : members.readFields .mysql = .ok memberFields :=
    eq_ok_of_toOption (by decide +kernel)
  have hread' : respelledMembers.readFields .mysql = .ok respelledMemberFields :=
    eq_ok_of_toOption (by decide +kernel)
  exact ⟨by decide +kernel, sameShape_members, hread, hread',
    planned_alike {} sameShape_members hread hread'⟩

end Conform

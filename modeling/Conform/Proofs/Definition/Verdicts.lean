/-
**One verdict for each occurrence of a key.**

Reading the fields of a definition ends with its first error, and checking it lists all of them.
Both go by the same verdicts: that on an occurrence of a key depends on the key, on its rule and on
whether the key occurs before, and on nothing else.  What is read at last are fields in the order in
which they are written, and of each rule it is known what the later stages rely on.

Main definitions:

* `Occurrence`, `Definition.occurrences` — the occurrences of keys, with what each verdict looks at;
* `Default.Suits` — which defaults a column of a kind can have;
* `Rule.Admissible` — what is known of a rule that is accepted;
* `Definition.SoundFields` — what is known of the fields that are read;
* `Definition.ReadsAsChecked` — **that reading and checking agree**.

Main results:

* `Definition.verdicts_eq_map` — **each verdict is that of its occurrence**;
* `Definition.fieldErrors_eq_filterMap` — one error for each occurrence that is refused, in order;
* `Rule.check_eq_none_iff_admissible` — a rule has no fault exactly when it is admissible;
* `Rule.admissible_of_validate` — an accepted rule is admissible;
* `fields_read_iff` — **reading and checking agree, and what is read is sound**.
-/

import Conform.Proofs.Definition.Fields

set_option relaxedAutoImplicit false
set_option autoImplicit false

namespace Conform

variable {d : Dialect} {t : Definition}

/-! ### Occurrences of keys -/

/-- **One occurrence of a key** in a definition. -/
structure Occurrence where
  key : String
  /-- The rule, as it is written. -/
  raw : String
  /-- The key occurs before. -/
  repeated : Bool
  deriving DecidableEq, Repr

namespace Occurrence

/-- The rule of an occurrence, or the fault for which it is refused. -/
def rule (d : Dialect) (w : Occurrence) : Except Fault Rule :=
  if w.repeated then .error .repeatedKey else Rule.validate d w.key w.raw

/-- The field that an occurrence declares, or its error, which names the table and the key. -/
def verdict (d : Dialect) (table : String) (w : Occurrence) : Except RuleError Field :=
  match w.rule d with
  | .ok rule => .ok ⟨w.key, rule⟩
  | .error fault => .error ⟨table, w.key, fault⟩

/-- The error of an occurrence, if it is refused. -/
def error? (d : Dialect) (table : String) (w : Occurrence) : Option RuleError :=
  match w.rule d with
  | .ok _ => none
  | .error fault => some ⟨table, w.key, fault⟩

/-- **An occurrence is refused exactly when it repeats a key or its rule is refused.** -/
theorem error?_isSome_iff {table : String} {w : Occurrence} :
    (w.error? d table).isSome = true ↔
      w.repeated = true ∨ ∃ fault, Rule.validate d w.key w.raw = .error fault := by
  unfold error? rule
  cases w.repeated with
  | true => simp
  | false => cases Rule.validate d w.key w.raw <;> simp

end Occurrence

namespace Definition

/-- **The occurrences of keys**, in the order of the definition. -/
def occurrences (t : Definition) : List Occurrence :=
  t.fields.zipIdx.map fun (w, i) => ⟨w.1, w.2, w.1 ∈ (t.fields.take i).map (·.1)⟩

theorem verdict_eq_occurrence (table : String) (earlier : List String) (key raw : String) :
    verdict d table earlier key raw = Occurrence.verdict d table ⟨key, raw, key ∈ earlier⟩ := by
  unfold verdict Occurrence.verdict Occurrence.rule
  by_cases h : key ∈ earlier
  · simp [h]
  · cases Rule.validate d key raw with
    | ok rule => simp [h]
    | error fault => simp [h]

theorem verdictsAfter_eq_map (table : String) (earlier : List String)
    (written : List (String × String)) :
    verdictsAfter d table earlier written = written.zipIdx.map fun w =>
      Occurrence.verdict d table
        ⟨w.1.1, w.1.2, w.1.1 ∈ earlier ++ (written.take w.2).map (·.1)⟩ := by
  -- a key that is passed moves from the list that is read to the keys before it
  induction written generalizing earlier with
  | nil => rfl
  | cons w rest ih =>
      have hmoved : ∀ (key : String) (i : Nat),
          key ∈ (w.1 :: earlier) ++ (rest.take i).map (·.1) ↔
            key ∈ earlier ++ ((w :: rest).take (i + 1)).map (·.1) := by
        intro key i
        simp only [List.take_succ_cons, List.map_cons, List.mem_append, List.mem_cons, or_assoc]
        exact or_left_comm
      rw [verdictsAfter, ih, verdict_eq_occurrence, List.zipIdx_cons, List.zipIdx_succ,
        List.map_cons, List.map_map]
      refine List.cons_eq_cons.2 ⟨by simp, List.map_congr_left fun later _ => ?_⟩
      simp only [Function.comp_apply, hmoved]

/-- **Each verdict is that of its occurrence.** -/
theorem verdicts_eq_map (d : Dialect) (t : Definition) :
    t.verdicts d = t.occurrences.map (·.verdict d t.table) := by
  rw [verdicts, verdictsAfter_eq_map, occurrences, List.map_map]
  rfl

/-- **There is one error for each occurrence that is refused**, in their order. -/
theorem fieldErrors_eq_filterMap (d : Dialect) (t : Definition) :
    t.fieldErrors d = t.occurrences.filterMap (·.error? d t.table) := by
  rw [fieldErrors, verdicts_eq_map, List.filterMap_map]
  congr 1
  funext w
  simp only [Function.comp_apply, Occurrence.verdict, Occurrence.error?]
  cases w.rule d <;> rfl

end Definition

/-! ### Admissible rules -/

/-- **Which defaults a column of a kind can have.** -/
def Default.Suits (kind : Kind) : Default → Prop
  | .absent => True
  | .number _ => kind = .number
  | .text _ => kind ≠ .number

/-- **What is known of a rule that is accepted in a dialect.** -/
structure Rule.Admissible (d : Dialect) (r : Rule) : Prop where
  /-- Long texts have neither bounds nor a default. -/
  bare : r.kind.isText = true → r.lower = none ∧ r.upper = none ∧ r.default = .absent
  /-- Bounded kinds have a length, which the dialect allows. -/
  length : r.kind.isBounded = true → ∃ n, r.length = some n ∧ 1 ≤ n ∧ n ≤ d.varcharLimit
  ordered : ∀ lower upper, r.lower = some lower → r.upper = some upper →
    lower.value ≤ upper.value
  default : r.default.Suits r.kind

namespace Rule

variable {r : Rule}

theorem checkText_eq_none_iff :
    r.checkText = none ↔
      (r.kind.isText = true → r.lower = none ∧ r.upper = none ∧ r.default = .absent) := by
  unfold checkText
  cases r.kind.isText with
  | false => simp
  | true => cases r.lower <;> cases r.upper <;> simp

theorem checkBounds_eq_none_iff :
    r.checkBounds = none ↔
      ∀ lower upper, r.lower = some lower → r.upper = some upper →
        lower.value ≤ upper.value := by
  unfold checkBounds
  cases r.lower <;> cases r.upper <;> simp [Binary64.lt]

/-- A length is not zero. -/
theorem one_le_length {n : Nat} (h : r.length = some n) : 1 ≤ n := by
  unfold Rule.length at h
  split at h
  · obtain ⟨x, -, hx⟩ := Option.bind_eq_some_iff.1 h
    exact Binary64.one_le_of_toLength? hx
  · cases h

/-- The default that is read for a kind suits the kind. -/
theorem suits_of_readDefault {kind : Kind} {part : List Char} {v : Default}
    (h : readDefault kind part = .ok v) : v.Suits kind := by
  simp only [readDefault] at h
  split at h
  · cases h
    trivial
  · split at h
    next hnumber =>
      split at h
      · cases h
        exact hnumber
      · split at h <;> cases h
    next hother =>
      cases h
      exact hother

/-- The default of a rule that is parsed suits its kind. -/
theorem suits_of_parse {raw : String} (h : parse raw = .ok r) : r.default.Suits r.kind := by
  unfold parse ofParts at h
  split at h
  · obtain ⟨kind, -, h⟩ := bind_eq_ok.1 h
    obtain ⟨lower, -, h⟩ := bind_eq_ok.1 h
    obtain ⟨upper, -, h⟩ := bind_eq_ok.1 h
    obtain ⟨default, hdefault, h⟩ := bind_eq_ok.1 h
    obtain ⟨indexed, -, h⟩ := bind_eq_ok.1 h
    cases h
    exact suits_of_readDefault hdefault
  · cases h

/-- **A rule that is parsed has no fault exactly when it is admissible.** -/
theorem check_eq_none_iff_admissible {raw : String} (h : parse raw = .ok r) :
    r.check d = none ↔ r.Admissible d := by
  rw [check_eq_none_iff, checkText_eq_none_iff, checkLength_eq_none_iff, checkBounds_eq_none_iff]
  constructor
  · rintro ⟨hbare, hlength, hordered⟩
    refine ⟨hbare, fun hbounded => ?_, hordered, suits_of_parse h⟩
    obtain ⟨n, hn, hlimit⟩ := hlength hbounded
    exact ⟨n, hn, one_le_length hn, hlimit⟩
  · intro hadmissible
    refine ⟨hadmissible.bare, fun hbounded => ?_, hadmissible.ordered⟩
    obtain ⟨n, hn, -, hlimit⟩ := hadmissible.length hbounded
    exact ⟨n, hn, hlimit⟩

/-- **A rule that is accepted is admissible.** -/
theorem admissible_of_validate {key raw : String} (h : validate d key raw = .ok r) :
    r.Admissible d := by
  obtain ⟨-, hparse, hcheck⟩ := validate_eq_ok_iff.1 h
  exact (check_eq_none_iff_admissible hparse).1 hcheck

end Rule

/-! ### Reading and checking -/

namespace Definition

/-- **What is known of the fields that are read from a definition.** -/
structure SoundFields (d : Dialect) (t : Definition) (fields : List Field) : Prop where
  /-- They have the keys and the rules that are written. -/
  written : fields.map (fun f => (f.key, Except.ok f.rule)) =
    t.fields.map (fun w => (w.1, Rule.validate d w.1 w.2))
  distinct : (fields.map (·.key)).Nodup
  free : ∀ f ∈ fields, f.key ∉ reservedKeys
  admissible : ∀ f ∈ fields, f.rule.Admissible d

/-- **Fields that are read are sound.** -/
theorem soundFields_of_readFields {fields : List Field} (hread : t.readFields d = .ok fields) :
    t.SoundFields d fields where
  written := map_field_of_readFields hread
  distinct := (declared_of_readFields hread).distinct
  free := (declared_of_readFields hread).free
  admissible f hf := by
    -- the rule of a field is the one that was accepted for its key
    obtain ⟨w, -, hw⟩ : ∃ w ∈ t.fields,
        (w.1, Rule.validate d w.1 w.2) = (f.key, Except.ok f.rule) :=
      List.mem_map.1 (map_field_of_readFields hread ▸ List.mem_map.2 ⟨f, hf, rfl⟩)
    exact Rule.admissible_of_validate (congrArg Prod.snd hw)

/-- **That reading and checking agree** on a definition. -/
structure ReadsAsChecked (d : Dialect) (t : Definition) : Prop where
  errors : t.errors d =
    (if t.hasName then [] else [⟨t.table, "", .blankTable⟩]) ++ t.fieldErrors d
  /-- What checking lists are the errors of the occurrences that are refused, in order. -/
  listed : t.fieldErrors d = t.occurrences.filterMap (·.error? d t.table)
  /-- An occurrence is refused when it repeats a key or its rule is refused. -/
  refused : ∀ w : Occurrence, (w.error? d t.table).isSome = true ↔
    w.repeated = true ∨ ∃ fault, Rule.validate d w.key w.raw = .error fault
  succeeds : (∃ fields, t.readFields d = .ok fields) ↔ t.fieldErrors d = []
  /-- The first error is the reason for which the fields are not read. -/
  fails : ∀ e, t.readFields d = .error e ↔ (t.fieldErrors d).head? = some e
  sound : ∀ fields, t.readFields d = .ok fields → t.SoundFields d fields

end Definition

/-- **Reading and checking agree**, and what is read is sound. -/
theorem fields_read_iff (d : Dialect) (t : Definition) : t.ReadsAsChecked d where
  errors := rfl
  listed := t.fieldErrors_eq_filterMap d
  refused _ := Occurrence.error?_isSome_iff
  succeeds := Definition.exists_readFields_iff
  fails _ := Definition.readFields_eq_error_iff
  sound _ hread := Definition.soundFields_of_readFields hread

/-- A table of users that declares a system column, a key twice, and a bounded long text. -/
def carelessUsers : Definition :=
  ⟨"user", none,
    [("id", "key|number|null|null|null|0|null"), ("email", "mail|string|0|20|null|0|null"),
      ("email", "mail|string|0|20|null|0|null"), ("bio", "story|text|0|10|null|0|null")]⟩

/-- Three of the four occurrences are refused, each for a reason of its own; the fields of the table
of users are read. -/
theorem fields_read_carelessUsers :
    (carelessUsers.errors .mysql = [⟨"user", "id", .reservedKey⟩, ⟨"user", "email", .repeatedKey⟩,
        ⟨"user", "bio", .boundsOnText .text⟩] ∧
      carelessUsers.readFields .mysql = .error ⟨"user", "id", .reservedKey⟩) ∧
    (users.readFields .mysql = .ok userFields ∧ (userFields.map (·.key)).Nodup ∧
      addressField.rule.Admissible .mysql) := by
  have herrors : carelessUsers.errors .mysql = [⟨"user", "id", .reservedKey⟩,
      ⟨"user", "email", .repeatedKey⟩, ⟨"user", "bio", .boundsOnText .text⟩] := by decide +kernel
  refine ⟨⟨herrors, ?_⟩, readFields_users .mysql, ?_⟩
  · exact ((fields_read_iff .mysql carelessUsers).fails _).2 (by decide +kernel)
  · have hsound := (fields_read_iff .mysql users).sound _ (readFields_users .mysql)
    exact ⟨hsound.distinct, hsound.admissible addressField (List.mem_singleton_self _)⟩

end Conform

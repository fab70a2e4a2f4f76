/-
**Which texts are rules, and how rules are written.**

A rule is seven parts with bars between them.  Only the last part, the pattern, may hold bars, so a
text is cut into parts in one way, and each part can be read by itself.  A rule whose label and
default can stand between bars is read back from its parts, whatever texts are chosen for its
bounds: what reads as a number holds no bar.

Main definitions:

* `Rule.Parts` — the seven parts as they are written, and `Rule.Parts.write` — the text of a rule;
* `Rule.Parts.Grammatical` — which parts are those of a rule;
* `Rule.Parts.Says` — the rule that they are;
* `Rule.Writable`, `Rule.parts` — the rules that can be written, and their parts.

Main results:

* `Text.splitUpTo_eq_append_iff` — how a text is cut into a given number of parts;
* `Rule.parse_write_eq_ok_iff` — **parts are read as the rule that they say**;
* `Rule.grammatical_iff` — they say a rule exactly when each of them is in order;
* `rules_parsed_iff` — **which texts are rules, which rule they are, and that rules are read back**.
-/

import Conform.Proofs.Definition.Verdicts
import Conform.Proofs.Numeral.Finite

set_option relaxedAutoImplicit false
set_option autoImplicit false

namespace Conform

/-! ### Parts between separators -/

namespace Text

variable {sep : Char}

/-- One part is split off at the first separator. -/
theorem splitUpTo_eq_cons_iff {n : Nat} {s first : List Char} {rest : List (List Char)}
    (hrest : rest ≠ []) :
    splitUpTo sep (n + 2) s = first :: rest ↔
      sep ∉ first ∧ ∃ t, s = first ++ sep :: t ∧ splitUpTo sep (n + 1) t = rest := by
  rw [splitUpTo]
  constructor
  · intro h
    split at h
    · exact absurd (List.cons.inj h).2.symm hrest
    next a b hcut =>
      obtain ⟨rfl, hsplit⟩ := List.cons.inj h
      obtain ⟨hfree, hs⟩ := cut_eq_some_iff.1 hcut
      exact ⟨hfree, b, hs, hsplit⟩
  · rintro ⟨hfree, t, hs, hsplit⟩
    rw [cut_eq_some_iff.2 ⟨hfree, hs⟩]
    exact congrArg (first :: ·) hsplit

/-- **How a text is cut into a given number of parts**: it is these parts with separators between
them, and none of them but the last holds a separator. -/
theorem splitUpTo_eq_append_iff {parts : List (List Char)} {last s : List Char} :
    splitUpTo sep (parts.length + 1) s = parts ++ [last] ↔
      (∀ part ∈ parts, sep ∉ part) ∧ s = [sep].intercalate (parts ++ [last]) := by
  induction parts generalizing s with
  | nil => simp [splitUpTo, List.intercalate]
  | cons first rest ih =>
      have hne : rest ++ [last] ≠ [] := by simp
      have hjoin : [sep].intercalate (first :: (rest ++ [last])) =
          first ++ sep :: [sep].intercalate (rest ++ [last]) := by
        cases rest <;> simp [List.intercalate]
      rw [List.cons_append, List.length_cons, splitUpTo_eq_cons_iff hne, hjoin,
        List.forall_mem_cons]
      constructor
      · rintro ⟨hfree, t, rfl, hsplit⟩
        obtain ⟨hrest, rfl⟩ := ih.1 hsplit
        exact ⟨⟨hfree, hrest⟩, rfl⟩
      · rintro ⟨⟨hfree, hrest⟩, rfl⟩
        exact ⟨hfree, _, rfl, ih.2 ⟨hrest, rfl⟩⟩

/-- A character that is not blank is kept by trimming. -/
theorem mem_trim {c : Char} {s : List Char} (hc : c ∈ s) (hblank : isBlank c = false) :
    c ∈ trim s := by
  have hdrop : ∀ {t : List Char}, c ∈ t → c ∈ t.dropWhile isBlank := by
    intro t ht
    rw [← List.takeWhile_append_dropWhile (p := isBlank) (l := t)] at ht
    refine (List.mem_append.1 ht).resolve_left fun hleading => ?_
    rw [List.mem_takeWhile_imp hleading] at hblank
    cases hblank
  exact List.mem_reverse.2 (hdrop (List.mem_reverse.2 (hdrop hc)))

end Text

/-! ### The parts of a rule -/

/-- **The seven parts of a rule**, as they are written. -/
structure Rule.Parts where
  label : List Char
  kind : List Char
  lower : List Char
  upper : List Char
  default : List Char
  flag : List Char
  pattern : List Char

namespace Rule

namespace Parts

/-- The parts before the pattern. -/
def front (p : Parts) : List (List Char) := [p.label, p.kind, p.lower, p.upper, p.default, p.flag]

/-- **The text of a rule**: its parts with bars between them. -/
def write (p : Parts) : String := String.ofList (['|'].intercalate (p.front ++ [p.pattern]))

/-- No part before the pattern holds a bar. -/
def Separate (p : Parts) : Prop := ∀ part ∈ p.front, '|' ∉ part

instance (p : Parts) : Decidable p.Separate :=
  inferInstanceAs (Decidable (∀ part ∈ p.front, '|' ∉ part))

theorem splitUpTo_eq_iff {p : Parts} {raw : String} :
    Text.splitUpTo '|' arity raw.toList = p.front ++ [p.pattern] ↔ p.Separate ∧ raw = p.write := by
  have hcut : Text.splitUpTo '|' (p.front.length + 1) raw.toList = p.front ++ [p.pattern] ↔
      p.Separate ∧ raw.toList = ['|'].intercalate (p.front ++ [p.pattern]) :=
    Text.splitUpTo_eq_append_iff
  rw [write, ← String.toList_inj, String.toList_ofList]
  exact hcut

end Parts

/-- A text that is a rule has seven parts. -/
theorem exists_parts_of_parse {raw : String} {r : Rule} (h : parse raw = .ok r) :
    ∃ p : Parts, p.Separate ∧ raw = p.write := by
  unfold parse at h
  generalize hsplit : Text.splitUpTo '|' arity raw.toList = parts at h
  unfold ofParts at h
  split at h
  next label kind lower upper default flag pattern =>
    exact ⟨⟨label, kind, lower, upper, default, flag, pattern⟩, Parts.splitUpTo_eq_iff.1 hsplit⟩
  · cases h

end Rule

/-! ### Reading the parts -/

/-- **The names of a kind.**  Arrays of strings have two. -/
def Kind.names : Kind → List String
  | .string => ["string"]
  | .number => ["number"]
  | .text => ["text"]
  | .arrayString => ["array", "array_string"]
  | .arrayText => ["array_text"]

theorem Kind.ofName?_eq_some_iff {name : String} {k : Kind} :
    Kind.ofName? name = some k ↔ name ∈ k.names := by
  constructor
  · intro h
    unfold Kind.ofName? at h
    split_ifs at h with h1 h2 h3 h4 h5 <;> obtain rfl := Option.some.inj h <;>
      simp_all [Kind.names]
  · intro h
    cases k <;> simp only [Kind.names, List.mem_cons, List.not_mem_nil, or_false] at h
    all_goals rcases h with rfl | rfl <;> rfl

namespace Rule

/-- Which bound a part gives. -/
def SpellsBound (part : List Char) : Option Binary64 → Prop
  | none => Text.trim part = absentWord
  | some x => Binary64.read? (Text.trim part) = some x

/-- Which default a part gives a column of a kind. -/
def SpellsDefault (kind : Kind) (part : List Char) : Default → Prop
  | .absent => Text.trim part = absentWord
  | .number n => kind = .number ∧
      ∃ v, Numeral.Spells (Text.trim part) v ∧ -2 ^ 63 ≤ v ∧ v < 2 ^ 63 ∧ Int64.ofInt v = n
  | .text s => kind ≠ .number ∧ Text.trim part ≠ absentWord ∧ s = String.ofList part

/-- The mark of a column that is indexed, and of one that is not. -/
def flagMark (indexed : Bool) : List Char := if indexed then ['1'] else ['0']

/-- Which pattern a part gives. -/
def SpellsPattern (part : List Char) : Option String → Prop
  | none => part = absentWord
  | some s => part ≠ absentWord ∧ s = String.ofList part

/-- The absent word is not a number. -/
theorem read?_absentWord : Binary64.read? absentWord = none := by decide

theorem int64?_absentWord : Numeral.int64? absentWord = none := by decide

theorem readKind_eq_ok_iff {part : List Char} {k : Kind} :
    readKind part = .ok k ↔ String.ofList (Text.trim part) ∈ k.names := by
  rw [← Kind.ofName?_eq_some_iff, readKind]
  cases Kind.ofName? (String.ofList (Text.trim part)) <;> simp

theorem readBound_eq_ok_iff {which : Bound} {part : List Char} {b : Option Binary64} :
    readBound which part = .ok b ↔ SpellsBound part b := by
  unfold readBound SpellsBound
  by_cases habsent : Text.trim part = absentWord
  · cases b <;> simp [habsent, read?_absentWord]
  · cases b <;> cases hread : Binary64.read? (Text.trim part) <;> simp [habsent, hread]

theorem readDefault_eq_ok_iff {kind : Kind} {part : List Char} {v : Default} :
    readDefault kind part = .ok v ↔ SpellsDefault kind part v := by
  unfold SpellsDefault
  simp only [← Numeral.int64?_eq_some_iff, readDefault]
  by_cases habsent : Text.trim part = absentWord
  · cases v <;> simp [habsent, int64?_absentWord]
  rw [if_neg habsent]
  by_cases hnumber : kind = .number
  · rw [if_pos hnumber]
    cases Numeral.int64? (Text.trim part) with
    | some n => cases v <;> simp [habsent, hnumber]
    | none =>
        -- the two faults differ in their wording only
        cases (Binary64.read? (Text.trim part)).isSome <;> cases v <;> simp [habsent, hnumber]
  · cases v <;> simp [habsent, hnumber, eq_comm]

theorem readFlag_eq_ok_iff {part : List Char} {indexed : Bool} :
    readFlag part = .ok indexed ↔ Text.trim part = flagMark indexed := by
  unfold readFlag flagMark
  by_cases hzero : Text.trim part = ['0']
  · cases indexed <;> simp [hzero]
  · by_cases hone : Text.trim part = ['1'] <;> cases indexed <;> simp [hzero, hone]

theorem readPattern_eq_iff {part : List Char} {pattern : Option String} :
    readPattern part = pattern ↔ SpellsPattern part pattern := by
  unfold readPattern SpellsPattern
  by_cases habsent : part = absentWord <;> cases pattern <;> simp [habsent, eq_comm]

/-- **The rule that parts are.**  A text default and the pattern are kept as they are written; the
other parts are trimmed. -/
structure Parts.Says (p : Parts) (r : Rule) : Prop where
  label : r.label = String.ofList (Text.trim p.label)
  kind : String.ofList (Text.trim p.kind) ∈ r.kind.names
  lower : SpellsBound p.lower r.lower
  upper : SpellsBound p.upper r.upper
  default : SpellsDefault r.kind p.default r.default
  flag : Text.trim p.flag = flagMark r.indexed
  pattern : SpellsPattern p.pattern r.pattern

theorem ofParts_eq_ok_iff {p : Parts} {r : Rule} :
    ofParts (p.front ++ [p.pattern]) = .ok r ↔ p.Says r := by
  simp only [ofParts, Parts.front, List.cons_append, List.nil_append, bind_eq_ok]
  constructor
  · rintro ⟨kind, hkind, lower, hlower, upper, hupper, default, hdefault, indexed, hflag, hr⟩
    cases hr
    exact ⟨rfl, readKind_eq_ok_iff.1 hkind, readBound_eq_ok_iff.1 hlower,
      readBound_eq_ok_iff.1 hupper, readDefault_eq_ok_iff.1 hdefault, readFlag_eq_ok_iff.1 hflag,
      readPattern_eq_iff.1 rfl⟩
  · intro h
    refine ⟨r.kind, readKind_eq_ok_iff.2 h.kind, r.lower, readBound_eq_ok_iff.2 h.lower,
      r.upper, readBound_eq_ok_iff.2 h.upper, r.default, readDefault_eq_ok_iff.2 h.default,
      r.indexed, readFlag_eq_ok_iff.2 h.flag, ?_⟩
    rw [readPattern_eq_iff.2 h.pattern, ← h.label]
    rfl

/-- **Parts are read as the rule that they say.** -/
theorem parse_write_eq_ok_iff {p : Parts} {r : Rule} (h : p.Separate) :
    parse p.write = .ok r ↔ p.Says r := by
  rw [parse, Parts.splitUpTo_eq_iff.2 ⟨h, rfl⟩, ofParts_eq_ok_iff]

/-! ### Parts that are in order -/

/-- A part is a bound when it is the absent word or a finite number. -/
def IsBound (part : List Char) : Prop :=
  Text.trim part = absentWord ∨
    ∃ d, Decimal.Spells (Text.trim part) d ∧ d.magnitude < Binary64.limit

/-- A part is a default of a kind when it is the absent word, or the kind is not that of numbers, or
it is an integer of sixty-four bits. -/
def IsDefault (kind : Kind) (part : List Char) : Prop :=
  Text.trim part = absentWord ∨ kind ≠ .number ∨
    ∃ v, Numeral.Spells (Text.trim part) v ∧ -2 ^ 63 ≤ v ∧ v < 2 ^ 63

/-- **Which parts are those of a rule.**  The label and the pattern are free. -/
structure Parts.Grammatical (p : Parts) : Prop where
  kind : ∃ k : Kind, String.ofList (Text.trim p.kind) ∈ k.names ∧ IsDefault k p.default
  lower : IsBound p.lower
  upper : IsBound p.upper
  flag : Text.trim p.flag = ['0'] ∨ Text.trim p.flag = ['1']

theorem isBound_iff {part : List Char} : IsBound part ↔ ∃ b, SpellsBound part b := by
  rw [IsBound, ← Binary64.exists_read?_iff, Option.exists]
  rfl

theorem isDefault_iff {kind : Kind} {part : List Char} :
    IsDefault kind part ↔ ∃ v, SpellsDefault kind part v := by
  constructor
  · rintro (habsent | hother | ⟨v, hspells, hlow, hhigh⟩)
    · exact ⟨.absent, habsent⟩
    · by_cases habsent : Text.trim part = absentWord
      · exact ⟨.absent, habsent⟩
      · exact ⟨.text (String.ofList part), hother, habsent, rfl⟩
    · by_cases hnumber : kind = .number
      · exact ⟨.number (Int64.ofInt v), hnumber, v, hspells, hlow, hhigh, rfl⟩
      · by_cases habsent : Text.trim part = absentWord
        · exact ⟨.absent, habsent⟩
        · exact ⟨.text (String.ofList part), hnumber, habsent, rfl⟩
  · rintro ⟨v, hv⟩
    cases v with
    | absent => exact .inl hv
    | number n =>
        obtain ⟨-, v, hspells, hlow, hhigh, -⟩ := hv
        exact .inr (.inr ⟨v, hspells, hlow, hhigh⟩)
    | text s => exact .inr (.inl hv.1)

/-- **Parts say a rule exactly when each of them is in order.** -/
theorem grammatical_iff {p : Parts} : p.Grammatical ↔ ∃ r, p.Says r := by
  constructor
  · intro h
    obtain ⟨k, hkind, hdefault⟩ := h.kind
    obtain ⟨lower, hlower⟩ := isBound_iff.1 h.lower
    obtain ⟨upper, hupper⟩ := isBound_iff.1 h.upper
    obtain ⟨default, hdefault⟩ := isDefault_iff.1 hdefault
    obtain ⟨indexed, hflag⟩ : ∃ indexed, Text.trim p.flag = flagMark indexed :=
      h.flag.elim (fun hzero => ⟨false, hzero⟩) fun hone => ⟨true, hone⟩
    exact ⟨⟨_, k, lower, upper, default, indexed, readPattern p.pattern⟩, rfl, hkind, hlower,
      hupper, hdefault, hflag, readPattern_eq_iff.1 rfl⟩
  · rintro ⟨r, h⟩
    refine ⟨⟨r.kind, h.kind, isDefault_iff.2 ⟨r.default, h.default⟩⟩,
      isBound_iff.2 ⟨r.lower, h.lower⟩, isBound_iff.2 ⟨r.upper, h.upper⟩, ?_⟩
    have hflag := h.flag
    cases hindexed : r.indexed with
    | false => exact .inl (by rw [hflag, hindexed]; rfl)
    | true => exact .inr (by rw [hflag, hindexed]; rfl)

/-! ### Rules as they are written -/

/-- The part of a default. -/
def defaultPart : Default → List Char
  | .absent => absentWord
  | .number n => (toString n.toInt).toList
  | .text s => s.toList

/-- The part of a pattern. -/
def patternPart : Option String → List Char
  | none => absentWord
  | some s => s.toList

/-- **The parts of a rule**, with given texts for its bounds. -/
def parts (r : Rule) (lower upper : List Char) : Parts where
  label := r.label.toList
  kind := r.kind.label.toList
  lower := lower
  upper := upper
  default := defaultPart r.default
  flag := flagMark r.indexed
  pattern := patternPart r.pattern

/-- **Which rules can be written.** -/
structure Writable (r : Rule) : Prop where
  trimmed : Text.strip r.label = r.label
  barless : '|' ∉ r.label.toList
  suits : r.default.Suits r.kind
  /-- A text default can stand between bars, and is not taken for the absent word. -/
  default : ∀ s, r.default = .text s → '|' ∉ s.toList ∧ Text.trim s.toList ≠ absentWord
  pattern : r.pattern ≠ some "null"

/-- What reads as a bound holds no bar. -/
theorem SpellsBound.barless {part : List Char} {b : Option Binary64} (h : SpellsBound part b) :
    '|' ∉ part := by
  intro hbar
  have hkept : '|' ∈ Text.trim part := Text.mem_trim hbar (by decide)
  cases b with
  | none =>
      rw [show Text.trim part = absentWord from h] at hkept
      exact absurd hkept (by decide)
  | some x =>
      obtain ⟨d, hread, -⟩ := Option.bind_eq_some_iff.1 h
      exact absurd ((Decimal.read?_eq_some_iff.1 hread).mem hkept) (by decide)

/-- The default that is written is the one that is read. -/
theorem spellsDefault_defaultPart {r : Rule} (h : r.Writable) :
    SpellsDefault r.kind (defaultPart r.default) r.default := by
  have hsuits := h.suits
  have htext := h.default
  cases hdefault : r.default with
  | absent => exact (by decide : Text.trim absentWord = absentWord)
  | number n =>
      rw [hdefault] at hsuits
      refine ⟨hsuits, n.toInt, ?_, Int64.le_toInt n, Int64.toInt_lt n, Int64.ofInt_toInt n⟩
      change Numeral.Spells (Text.trim (toString n.toInt).toList) n.toInt
      rw [trim_toString_int]
      exact spells_toString n.toInt
  | text s =>
      rw [hdefault] at hsuits
      exact ⟨hsuits, (htext s hdefault).2, (String.ofList_toList).symm⟩

theorem barless_defaultPart {r : Rule} (h : r.Writable) : '|' ∉ defaultPart r.default := by
  have htext := h.default
  cases hdefault : r.default with
  | absent => exact (by decide : '|' ∉ absentWord)
  | number n => exact not_mem_toString_int (by decide) (by decide)
  | text s => exact (htext s hdefault).1

theorem spellsPattern_patternPart {pattern : Option String} (h : pattern ≠ some "null") :
    SpellsPattern (patternPart pattern) pattern := by
  cases pattern with
  | none => rfl
  | some s =>
      refine ⟨fun hword => h (congrArg some ?_), (String.ofList_toList).symm⟩
      exact String.toList_inj.1 (hword.trans (by decide))

variable {r : Rule} {lower upper : List Char}

theorem separate_parts (h : r.Writable) (hlower : SpellsBound lower r.lower)
    (hupper : SpellsBound upper r.upper) : (r.parts lower upper).Separate := by
  have hkind : '|' ∉ r.kind.label.toList := by cases r.kind <;> decide
  have hflag : '|' ∉ flagMark r.indexed := by cases r.indexed <;> decide
  intro part hpart
  simp only [Parts.front, parts, List.mem_cons, List.not_mem_nil, or_false] at hpart
  rcases hpart with rfl | rfl | rfl | rfl | rfl | rfl
  · exact h.barless
  · exact hkind
  · exact hlower.barless
  · exact hupper.barless
  · exact barless_defaultPart h
  · exact hflag

/-- The parts of a rule say that rule. -/
theorem says_parts (h : r.Writable) (hlower : SpellsBound lower r.lower)
    (hupper : SpellsBound upper r.upper) : (r.parts lower upper).Says r where
  label := h.trimmed.symm
  kind := by cases hkind : r.kind <;> simp only [parts, hkind] <;> decide
  lower := hlower
  upper := hupper
  default := spellsDefault_defaultPart h
  flag := by cases hindexed : r.indexed <;> simp only [parts, hindexed] <;> decide
  pattern := spellsPattern_patternPart h.pattern

/-- **A rule that is written is read back.** -/
theorem parse_parts (h : r.Writable) (hlower : SpellsBound lower r.lower)
    (hupper : SpellsBound upper r.upper) : parse (r.parts lower upper).write = .ok r :=
  (parse_write_eq_ok_iff (separate_parts h hlower hupper)).2 (says_parts h hlower hupper)

end Rule

/-- **Which texts are rules, which rule they are, and that rules are read back.**  A text is a rule
exactly when it is seven parts in order with bars between them, none in the first six; it is then
the rule that its parts say.  A rule that can be written is read back from its parts, with any texts
that read as its bounds. -/
theorem rules_parsed_iff :
    (∀ raw, (∃ r, Rule.parse raw = .ok r) ↔
      ∃ p : Rule.Parts, p.Separate ∧ raw = p.write ∧ p.Grammatical) ∧
    (∀ (p : Rule.Parts) r, p.Separate → (Rule.parse p.write = .ok r ↔ p.Says r)) ∧
    ∀ (r : Rule) (lower upper : List Char), r.Writable → Rule.SpellsBound lower r.lower →
      Rule.SpellsBound upper r.upper → Rule.parse (r.parts lower upper).write = .ok r := by
  refine ⟨fun raw => ?_, fun p r => Rule.parse_write_eq_ok_iff,
    fun r lower upper => Rule.parse_parts⟩
  constructor
  · rintro ⟨r, hparse⟩
    obtain ⟨p, hseparate, rfl⟩ := Rule.exists_parts_of_parse hparse
    have hsays : p.Says r := (Rule.parse_write_eq_ok_iff hseparate).1 hparse
    exact ⟨p, hseparate, rfl, Rule.grammatical_iff.2 ⟨r, hsays⟩⟩
  · rintro ⟨p, hseparate, rfl, hgrammatical⟩
    obtain ⟨r, hsays⟩ := Rule.grammatical_iff.1 hgrammatical
    exact ⟨r, (Rule.parse_write_eq_ok_iff hseparate).2 hsays⟩

/-- The size of a shirt, with a blank in its default and bars in its pattern. -/
def sizeRule : Rule :=
  ⟨"size", .string, some ⟨false, 0⟩, some ⟨false, 8 * Binary64.one⟩, .text " m", true,
    some "^(s|m|l)$"⟩

/-- The size of a shirt is read back, with its upper bound in another spelling; a default with a bar
moves the parts after it, so that the text is no rule any more. -/
theorem rules_parsed_sizeRule :
    (sizeRule.Writable ∧ Rule.SpellsBound "0".toList sizeRule.lower ∧
      Rule.SpellsBound " 0.8e1".toList sizeRule.upper ∧
      Rule.parse "size|string|0| 0.8e1| m|1|^(s|m|l)$" = .ok sizeRule) ∧
    ¬ ∃ p : Rule.Parts, p.Separate ∧ "size|string|0|8|s|m|1|null" = p.write ∧ p.Grammatical := by
  have hwritable : sizeRule.Writable := by
    refine ⟨by decide, by decide, Kind.noConfusion, ?_, by decide⟩
    rintro s hs
    obtain rfl : " m" = s := Default.text.inj hs
    exact ⟨by decide, by decide⟩
  have hlower : Rule.SpellsBound "0".toList sizeRule.lower := by
    change Binary64.read? _ = _
    decide +kernel
  have hupper : Rule.SpellsBound " 0.8e1".toList sizeRule.upper := by
    change Binary64.read? _ = _
    decide +kernel
  have hwritten : (sizeRule.parts "0".toList " 0.8e1".toList).write =
      "size|string|0| 0.8e1| m|1|^(s|m|l)$" := by decide +kernel
  refine ⟨⟨hwritable, hlower, hupper, ?_⟩, fun hparts => ?_⟩
  · rw [← hwritten]
    exact rules_parsed_iff.2.2 sizeRule _ _ hwritable hlower hupper
  · obtain ⟨r, hparse⟩ := (rules_parsed_iff.1 _).2 hparts
    have hrefused : (Rule.parse "size|string|0|8|s|m|1|null").toOption = none := by
      decide +kernel
    rw [hparse] at hrefused
    cases hrefused

end Conform

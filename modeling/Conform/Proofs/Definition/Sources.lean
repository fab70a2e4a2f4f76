/-
**A source keeps every field, in order.**

A source is an object of JSON with the table, its comment and its fields, in any order, and with any
other members among them.  However the object is written, what is read are the table, the comment
and the fields as they are written: the fields in their order, and a key as often as it is given.  A
key that is given again is therefore never lost, and checking the definition reports it.

Main definitions:

* `Json.ofText`, `Json.member` — the value of a text, and a member with its key;
* `Definition.fieldsValue`, `Definition.CommentValues` — the fields and the comment as values;
* `Definition.WrittenBy` — **the members that write a definition**.

Main results:

* `Definition.ofMembers?_of_writtenBy` — members that write a definition are read as it;
* `Definition.sources_kept` — **a source keeps every field**.
-/

import Conform.Definition.Source
import Conform.Proofs.Definition.Repetitions
import Conform.Proofs.Json.Reading

set_option relaxedAutoImplicit false
set_option autoImplicit false

namespace Conform

namespace Json

/-- The value of a text. -/
def ofText (s : String) : Json := .string (some s.toList)

/-- A member of an object, with its key. -/
def member (key : String) (v : Json) : Option (List Char) × Json := (some key.toList, v)

end Json

open Json

namespace Definition

variable {t : Definition} {members : List (Option (List Char) × Json)}

/-! ### Members -/

/-- The value of the fields. -/
def fieldsValue (fields : List (String × String)) : Json :=
  .object (fields.map fun f => member f.1 (ofText f.2))

/-- **The values that may give a comment**: for a table without one there is none, or it is null. -/
inductive CommentValues : Option String → List Json → Prop
  | missing : CommentValues none []
  | null : CommentValues none [.null]
  | text (comment : String) : CommentValues (some comment) [ofText comment]

/-- The keys of the members that are looked at. -/
def ownKeys : List String := ["table", "comment", "fields"]

/-- **The members that write a definition**: its table, its fields and its comment, in any order,
and any others, of other keys. -/
def WrittenBy (t : Definition) (members : List (Option (List Char) × Json)) : Prop :=
  ∃ comments others, CommentValues t.comment comments ∧
    (∀ m ∈ others, ∃ key v, key ∉ ownKeys ∧ m = member key v) ∧
    members.Perm (member "table" (ofText t.table) :: member "fields" (fieldsValue t.fields) ::
      (comments.map (member "comment") ++ others))

theorem textOf?_ofText (s : String) : textOf? (ofText s) = some s := by
  rw [ofText, textOf?, String.ofList_toList]

theorem fieldsOf?_fieldsValue (fields : List (String × String)) :
    fieldsOf? (fieldsValue fields) = some fields := by
  rw [fieldsValue, fieldsOf?]
  induction fields with
  | nil => rfl
  | cons f fields ih =>
      have hfirst : fieldOf? (member f.1 (ofText f.2)) = some f := by
        simp [fieldOf?, member, textOf?_ofText]
      rw [List.map_cons, List.mapM_cons, hfirst, ih]
      rfl

theorem valuesAt_perm {other : List (Option (List Char) × Json)} (h : members.Perm other)
    (key : String) : (valuesAt key members).Perm (valuesAt key other) :=
  (h.filter _).map _

theorem valuesAt_append (key : String) (other : List (Option (List Char) × Json)) :
    valuesAt key (members ++ other) = valuesAt key members ++ valuesAt key other := by
  rw [valuesAt, valuesAt, valuesAt, List.filter_append, List.map_append]

theorem valuesAt_map_member (key other : String) (values : List Json) :
    valuesAt key (values.map (member other)) = if other = key then values else [] := by
  by_cases h : other = key <;>
    simp [valuesAt, List.filter_map, Function.comp_def, member, String.toList_inj, h]

theorem valuesAt_cons (key other : String) (v : Json) :
    valuesAt key (member other v :: members) =
      (if other = key then [v] else []) ++ valuesAt key members := by
  rw [← valuesAt_map_member key other [v], ← valuesAt_append]
  rfl

/-- Members of other keys give nothing. -/
theorem valuesAt_others {key : String} (hkey : key ∈ ownKeys)
    (h : ∀ m ∈ members, ∃ other v, other ∉ ownKeys ∧ m = member other v) :
    valuesAt key members = [] := by
  rw [valuesAt, List.map_eq_nil_iff, List.filter_eq_nil_iff]
  intro m hm heq
  obtain ⟨other, v, hother, rfl⟩ := h m hm
  have hsame : other = key := by simpa [member, String.toList_inj] using heq
  exact hother (hsame ▸ hkey)

/-- **Members that write a definition are read as it.** -/
theorem ofMembers?_of_writtenBy (h : t.WrittenBy members) : ofMembers? members = some t := by
  obtain ⟨comments, others, hcomments, hothers, hperm⟩ := h
  have hkeys : members.all (·.1.isSome) = true := by
    refine List.all_eq_true.2 fun m hm => ?_
    have hm := hperm.mem_iff.1 hm
    simp only [List.mem_cons, List.mem_append, List.mem_map] at hm
    rcases hm with rfl | rfl | ⟨v, -, rfl⟩ | hm
    · rfl
    · rfl
    · rfl
    · obtain ⟨key, v, -, rfl⟩ := hothers m hm
      rfl
  -- of the members of a key that is looked at, the order does not matter, as there is at most one
  have hvalues : ∀ key ∈ ownKeys, (valuesAt key members).Perm
      ((if "table" = key then [ofText t.table] else []) ++
        ((if "fields" = key then [fieldsValue t.fields] else []) ++
          if "comment" = key then comments else [])) := by
    intro key hkey
    have hperm := valuesAt_perm hperm key
    rwa [valuesAt_cons, valuesAt_cons, valuesAt_append, valuesAt_map_member,
      valuesAt_others hkey hothers, List.append_nil] at hperm
  have htable : valuesAt "table" members = [ofText t.table] :=
    List.perm_singleton.1 (by simpa using hvalues "table" (by decide))
  have hfields : valuesAt "fields" members = [fieldsValue t.fields] :=
    List.perm_singleton.1 (by simpa using hvalues "fields" (by decide))
  have hcomment : (valuesAt "comment" members).Perm comments := by
    simpa using hvalues "comment" (by decide)
  rw [ofMembers?, if_pos hkeys, htable, hfields]
  simp only [textOf?_ofText, fieldsOf?_fieldsValue, Option.bind_some, Option.map_some]
  obtain ⟨table, comment, fields⟩ := t
  cases hcomments with
  | missing =>
      rw [List.perm_nil.1 hcomment]
      rfl
  | null =>
      rw [List.perm_singleton.1 hcomment]
      rfl
  | text comment =>
      rw [List.perm_singleton.1 hcomment]
      simp [commentOf?, ofText, textOf?]

/-- **A source keeps every field.**  Whatever the order of its members, the other members among
them, the white space and the spellings of its texts, a source is read as the definition that it
writes, with its fields in their order and with all repetitions.  So a key that is given again is
still there when the definition is checked, and it is reported once for each time that it is
repeated. -/
theorem sources_kept {source : String} (hmembers : t.WrittenBy members)
    (hsource : (Json.object members).Spells source.toList) :
    ofSource? source = some t ∧
    ∀ d key, (t.errors d).count ⟨t.table, key, .repeatedKey⟩ =
      (t.fields.map (·.1)).count key - 1 := by
  refine ⟨?_, fun d key => count_repeatedKey d t key⟩
  rw [ofSource?, read?_of_spells hsource, Option.bind_some, ofJson?]
  exact ofMembers?_of_writtenBy hmembers

/-- A definition that gives one key twice. -/
def repeating : Definition := ⟨"t", none, [("a", "r"), ("a", "s")]⟩

/-- Its members, the table last, with another one among them. -/
def repeatingMembers : List (Option (List Char) × Json) :=
  [member "fields" (fieldsValue repeating.fields), member "x" (.array [.bool true, .number]),
    member "table" (ofText "t")]

/-- A source of it, in which the key is spelled in two ways. -/
def repeatingSource : String :=
  "\x7b\x22fields\x22:\x7b\x22a\x22:\x22r\x22,\n\x22\\u0061\x22:\x22s\x22\x7d, " ++
    "\x22x\x22:[true,-15e+7],\x22table\x22:\x22t\x22\x7d"

theorem writtenBy_repeating : repeating.WrittenBy repeatingMembers := by
  refine ⟨[], [member "x" (.array [.bool true, .number])], .missing, ?_, ?_⟩
  · intro m hm
    exact ⟨"x", _, by decide, List.mem_singleton.1 hm⟩
  · exact ((List.Perm.swap _ _ []).cons _).trans (List.Perm.swap _ _ _)

theorem spells_repeatingSource : (Json.object repeatingMembers).Spells repeatingSource.toList := by
  have hnone : IsSpace [] := fun c hc => nomatch hc
  have hblank : ∀ c, c = ' ' ∨ c = '\n' → IsSpace [c] := by
    rintro c h d hd
    obtain rfl := List.mem_singleton.1 hd
    rcases h with rfl | rfl <;> decide
  have hplain : ∀ text : List Char, (∀ c ∈ text, c ≠ '\x22' ∧ c ≠ '\\' ∧ 0x20 ≤ c.toNat) →
      (Token.string (some text)).Spells ('\x22' :: (text ++ ['\x22'])) :=
    fun text h => .text (spellsText_self h)
  have hcode : (Token.string (some ['a'])).Spells
      ('\x22' :: (['\\', 'u', '0', '0', '6', '1'] ++ ['\x22'])) :=
    have hdigits : IsHex 'a'.toNat ['0', '0', '6', '1'] := ⟨rfl, List.all_eq_true.1 rfl, rfl⟩
    .text (.cons (.hex hdigits) .nil)
  have hnumber : Token.number.Spells ['-', '1', '5', 'e', '+', '7'] :=
    .number ⟨['-'], ['1', '5'], [], ['e', '+', '7'], .inr rfl,
      .inr ⟨⟨by decide, by simp⟩, by decide⟩, .inl rfl,
      .inr ⟨'e', ['+'], ['7'], .inl rfl, .inr (.inl rfl), ⟨by decide, by simp⟩, rfl⟩, rfl⟩
  have h : SpellsTokens (tokens (.object repeatingMembers)) _ :=
    .cons hnone .openBrace <| .cons hnone (hplain _ (by simp)) <| .cons hnone .colon <|
    .cons hnone .openBrace <| .cons hnone (hplain _ (by simp)) <| .cons hnone .colon <|
    .cons hnone (hplain _ (by simp)) <| .cons hnone .comma <|
    .cons (hblank '\n' (.inr rfl)) hcode <| .cons hnone .colon <|
    .cons hnone (hplain _ (by simp)) <| .cons hnone .closeBrace <| .cons hnone .comma <|
    .cons (hblank ' ' (.inl rfl)) (hplain _ (by simp)) <| .cons hnone .colon <|
    .cons hnone .openBracket <| .cons hnone .true <| .cons hnone .comma <|
    .cons hnone hnumber <| .cons hnone .closeBracket <| .cons hnone .comma <|
    .cons hnone (hplain _ (by simp)) <| .cons hnone .colon <|
    .cons hnone (hplain _ (by simp)) <| .cons hnone .closeBrace <| .nil hnone
  exact h

/-- The source is read as the definition, in which the repeated key is reported once. -/
theorem sources_kept_repeating :
    repeating.WrittenBy repeatingMembers ∧
    (Json.object repeatingMembers).Spells repeatingSource.toList ∧
    ofSource? repeatingSource = some repeating ∧
    (repeating.errors .mysql).count ⟨"t", "a", .repeatedKey⟩ = 1 := by
  obtain ⟨hread, hcount⟩ := sources_kept writtenBy_repeating spells_repeatingSource
  exact ⟨writtenBy_repeating, spells_repeatingSource, hread, hcount .mysql "a"⟩

end Definition

end Conform

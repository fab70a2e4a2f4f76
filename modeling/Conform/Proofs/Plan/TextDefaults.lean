/-
**When the default of a text is told from what MySQL reports.**

MySQL reports the default of a string as it is.  Before it is compared it is brought to the form of
defaults that are written in SQL: blanks at its ends and quotes are taken away, and the word for
null is no default.  A text that this form changes is never found again in a report, so that its
default is altered by every plan.

Main definitions:

* `Live.IsPlain` — texts that are their own form.

Main results:

* `Live.plainDefault_eq_self_iff` — **which texts are their own form**;
* `changes_of_text_iff` — a column of the type and length of its rule does not differ exactly when
  the text of its default is plain;
* `text_default_rests_iff` — **when no plan alters the default of a text**.
-/

import Conform.Proofs.Sync.Refusals
import Conform.Proofs.Plan.Accounts
import Conform.Proofs.Text.Trimming

set_option relaxedAutoImplicit false
set_option autoImplicit false

namespace Conform

/-! ### Texts that are their own form -/

namespace Text

/-- What is left when a beginning is dropped does not begin like it. -/
theorem head?_of_dropWhile_eq_self {p : Char → Bool} {s : List Char} (h : s.dropWhile p = s)
    {c : Char} (hc : s.head? = some c) : p c = false := by
  have hfirst := List.head?_dropWhile_not p s
  rw [h, hc] at hfirst
  exact hfirst

/-- **A text is left as it is exactly when it has no blank at either end.** -/
theorem trim_eq_self_iff {s : List Char} :
    trim s = s ↔ (∀ c, s.head? = some c → isBlank c = false) ∧
      ∀ c, s.getLast? = some c → isBlank c = false := by
  constructor
  · intro h
    have hstart : trimStart s = s := by
      refine (List.dropWhile_sublist isBlank).eq_of_length_le ?_
      calc s.length = (trim s).length := by rw [h]
        _ ≤ (trimStart s).length := (trimEnd_sublist _).length_le
    have hend : s.reverse.dropWhile isBlank = s.reverse := by
      rw [trim, hstart, trimEnd] at h
      rw [← List.reverse_reverse (s.reverse.dropWhile isBlank), h]
    refine ⟨fun c hc => head?_of_dropWhile_eq_self hstart hc, fun c hc => ?_⟩
    rw [← List.head?_reverse] at hc
    exact head?_of_dropWhile_eq_self hend hc
  · rintro ⟨hfirst, hlast⟩
    exact trim_eq_self hfirst hlast

/-- Reading up to a quote makes no text longer. -/
theorem length_undouble_le (quote : Char) (s : List Char) :
    (undouble quote s).length ≤ s.length := by
  fun_induction undouble quote s with
  | case1 => exact Nat.le_refl 0
  | case2 => exact Nat.zero_le _
  | case3 => exact Nat.le_refl 1
  | case4 s ih => simp only [List.length_cons]; omega
  | case5 => exact Nat.zero_le _
  | case6 c d s _ ih => simp only [List.length_cons] at ih ⊢; omega

end Text

namespace Live

/-- **Texts that are their own form**: they have no blank at either end, they do not begin with a
quote, and they are not the word for null. -/
structure IsPlain (s : String) : Prop where
  first : ∀ c, s.toList.head? = some c → Text.isBlank c = false ∧ c ≠ '\x27'
  last : ∀ c, s.toList.getLast? = some c → Text.isBlank c = false
  word : Text.lower s.toList ≠ ['n', 'u', 'l', 'l']

/-- **Which texts are their own form.** -/
theorem plainDefault_eq_self_iff {s : String} : plainDefault s = some s ↔ IsPlain s := by
  simp only [plainDefault]
  constructor
  · intro h
    split at h
    · cases h
    next hword =>
      split at h
      next rest hquote =>
        -- what is read between quotes is shorter than what was written
        have hsame : Text.undouble '\x27' rest = s.toList :=
          String.toList_ofList.symm.trans (congrArg String.toList (Option.some.inj h))
        have hshort := Text.length_undouble_le '\x27' rest
        have hlong := (Text.trim_sublist s.toList).length_le
        rw [hquote, List.length_cons, ← hsame] at hlong
        omega
      next hquote =>
        have htrim : Text.trim s.toList = s.toList :=
          String.toList_ofList.symm.trans (congrArg String.toList (Option.some.inj h))
        rw [htrim] at hquote hword
        obtain ⟨hfirst, hlast⟩ := Text.trim_eq_self_iff.1 htrim
        refine ⟨fun c hc => ⟨hfirst c hc, ?_⟩, hlast, hword⟩
        rintro rfl
        obtain ⟨rest, hrest⟩ := List.head?_eq_some_iff.1 hc
        exact hquote rest hrest
  · rintro ⟨hfirst, hlast, hword⟩
    have htrim : Text.trim s.toList = s.toList :=
      Text.trim_eq_self (fun c hc => (hfirst c hc).1) hlast
    rw [htrim, if_neg hword]
    split
    next rest hquote => exact absurd rfl (hfirst '\x27' (by rw [hquote]; rfl)).2
    · rw [String.ofList_toList]

instance (s : String) : Decidable (IsPlain s) := decidable_of_iff _ plainDefault_eq_self_iff

end Live

variable {o : Options} {table key : String} {r : Rule} {live : LiveColumn} {text : String}

/-! ### Differences -/

/-- A text is found again exactly when it is reported as it is. -/
theorem agrees_text_iff {reported : Option String} :
    (Default.text text).agrees reported = true ↔ reported = some text := by
  cases reported with
  | none => simp [Default.agrees]
  | some other =>
      simp only [Default.agrees, beq_iff_eq, Option.some_inj]
      exact eq_comm

theorem defaultChange?_of_text {c : Column} (hdefault : c.default = .text text)
    (hreported : live.default = Live.plainDefault text) :
    defaultChange? live c = none ↔ Live.IsPlain text := by
  rw [← Live.plainDefault_eq_self_iff, ← hreported, ← agrees_text_iff, defaultChange?, hdefault]
  cases (Default.text text).agrees live.default with
  | true => simp
  | false => simp

/-- **A live column that has the type and the length of a rule.** -/
structure IsShaped (d : Dialect) (live : LiveColumn) (r : Rule) : Prop where
  type : TypeName.same live.type (r.kind.storage d).keyword = true
  length : live.length = r.length

section Shaped

variable {d : Dialect} (h : IsShaped d live r)

include h in
theorem typeChange?_of_shaped : typeChange? live (Field.column d ⟨key, r⟩) = none :=
  if_pos h.type

include h in
theorem lengthChange?_of_shaped : lengthChange? live (Field.column d ⟨key, r⟩) = none := by
  have hlength : (Field.column d ⟨key, r⟩).type.length = r.length := Declared.length_column _
  rw [lengthChange?, hlength, h.length]
  cases r.length with
  | none => rfl
  | some n => exact if_pos rfl

include h in
theorem gate_of_shaped : gate d live.type (r.kind.storage d) = .unchanged :=
  if_pos h.type

include h in
theorem shapeStep_of_shaped :
    shapeStep d o.allowShrink live (Field.column d ⟨key, r⟩) = .keep :=
  shapeStep_eq_keep_iff.2 ⟨typeChange?_of_shaped h, lengthChange?_of_shaped h⟩

end Shaped

/-- **A column of the type and length of its rule does not differ**, but perhaps in its comment,
exactly when the text of its default is plain. -/
theorem changes_of_text_iff {d : Dialect} {compared : Bool} (hshaped : IsShaped d live r)
    (hdefault : r.default = .text text) (hreported : live.default = Live.plainDefault text) :
    changes compared live (Field.column d ⟨key, r⟩) =
        (commentChange? compared live (Field.column d ⟨key, r⟩)).toList ↔ Live.IsPlain text := by
  rw [← defaultChange?_of_text (c := Field.column d ⟨key, r⟩) hdefault hreported, changes,
    typeChange?_of_shaped hshaped, lengthChange?_of_shaped hshaped]
  cases defaultChange? live (Field.column d ⟨key, r⟩) with
  | none => simp
  | some ch => simp

/-! ### Plans -/

theorem isText_of_storage {d : Dialect} {k : Kind} (h : k.storage d = .text) :
    k.isText = true := by
  cases k with
  | string | arrayString => cases h
  | number => cases d <;> cases h
  | text | arrayText => rfl

/-- A rule with a text for its default is not one of long texts. -/
theorem storage_ne_text {d : Dialect} (hcheck : r.check d = none)
    (hdefault : r.default = .text text) : r.kind.storage d ≠ .text := by
  have htext := (Rule.check_eq_none_iff.1 hcheck).1
  intro hstorage
  rw [Rule.checkText, if_pos (isText_of_storage hstorage), hdefault] at htext
  split at htext
  · cases htext
  · cases htext

/-- **The default of a text is left as it is exactly when the text is plain.** -/
theorem defaultStep_of_text (key : String) (hshaped : IsShaped .mysql live r)
    (hcheck : r.check .mysql = none) (hdefault : r.default = .text text)
    (hreported : live.default = Live.plainDefault text) :
    (∀ k, defaultStep .mysql .keep live (Field.column .mysql ⟨key, r⟩) ≠ .alter k) ↔
      Live.IsPlain text := by
  have hlong : TypeName.isText live.type = false := by
    rw [← Bool.not_eq_true]
    intro htext
    have hgate : gate .mysql live.type (r.kind.storage .mysql) ≠ .refused := by
      rw [gate_of_shaped hshaped]
      decide
    exact storage_ne_text hcheck hdefault (storage_of_isText hgate htext).2
  rw [← defaultChange?_of_text (c := Field.column .mysql ⟨key, r⟩) hdefault hreported, defaultStep,
    Clause.redefault?, hlong]
  cases defaultChange? live (Field.column .mysql ⟨key, r⟩) with
  | none => simp
  | some ch => simp [ShapeStep.alters]

/-- The plan for a field alone has the clauses of the field. -/
theorem defaults_of_singleton {d : Dialect} {f : Field} {s : Snapshot} {p : Planned}
    (hplan : planLiveTable d o table [f] s = .ok p) (hlive : s.columns[f.key]? = some live) :
    p.plan.defaults =
      (defaultStep d (shapeStep d o.allowShrink live (f.column d)) live (f.column d)).clauses := by
  obtain ⟨a, hdraft, rfl⟩ := planLiveTable_eq_ok_iff.1 hplan
  have hreview := (draftField_of_live hdraft (List.mem_singleton.2 rfl) hlive).2
  obtain ⟨b, c, hfirst, hrest, rfl⟩ := draftFields_cons_eq_ok.1 hdraft
  cases hrest
  rw [hfirst, draft_review] at hreview
  cases hreview
  exact List.append_nil _

/-- **When no plan alters the default of a text.**  A live column has the type and the length of a
rule that is admitted under MySQL, and the default that the text of the rule is reported as.  Then
it does not differ, but perhaps in its comment, exactly when the text is plain; the plan for the
field alone succeeds, and it alters no default exactly when the text is plain; and so does every
plan for a table that has the field. -/
theorem text_default_rests_iff {raw : String} (hvalid : Rule.validate .mysql key raw = .ok r)
    (hdefault : r.default = .text text) (hshaped : IsShaped .mysql live r)
    (hreported : live.default = Live.plainDefault text) (o : Options) :
    (changes (o.statesComments .mysql) live (Field.column .mysql ⟨key, r⟩) =
        (commentChange? (o.statesComments .mysql) live (Field.column .mysql ⟨key, r⟩)).toList ↔
      Live.IsPlain text) ∧
    ∀ (table : String) (s : Snapshot), s.columns[key]? = some live →
      (∃ p, planLiveTable .mysql o table [⟨key, r⟩] s = .ok p ∧
        (p.plan.defaults = [] ↔ Live.IsPlain text)) ∧
      ∀ fields p, Declared .mysql fields → (⟨key, r⟩ : Field) ∈ fields →
        planLiveTable .mysql o table fields s = .ok p →
          ((∀ k ∈ p.plan.defaults, k.key ≠ key) ↔ Live.IsPlain text) := by
  have hcheck := (Rule.validate_eq_ok_iff.1 hvalid).2.2
  have hstep := defaultStep_of_text key hshaped hcheck hdefault hreported
  refine ⟨changes_of_text_iff hshaped hdefault hreported, fun table s hlive => ⟨?_, ?_⟩⟩
  · obtain ⟨p, hplan⟩ : ∃ p, planLiveTable .mysql o table [⟨key, r⟩] s = .ok p := by
      cases hplan : planLiveTable .mysql o table [⟨key, r⟩] s with
      | ok p => exact ⟨p, rfl⟩
      | error e =>
          obtain ⟨f, hf, live', hlive', hconflict⟩ := planLiveTable_refused_iff.1 ⟨e, hplan⟩
          obtain rfl := List.mem_singleton.1 hf
          obtain rfl := Option.some.inj (hlive.symm.trans hlive')
          cases hshaped.type.symm.trans hconflict.1
    refine ⟨p, hplan, ?_⟩
    rw [defaults_of_singleton hplan hlive, shapeStep_of_shaped hshaped, ← hstep,
      List.eq_nil_iff_forall_not_mem]
    exact forall_congr' fun k => not_congr mem_clauses_default
  · intro fields p hfields hf hplan
    have hclause := fun k => defaults_of_field hfields hplan hf hlive (k := k)
    rw [shapeStep_of_shaped hshaped] at hclause
    rw [← hstep]
    exact forall_congr' fun k => not_and.symm.trans (not_congr (hclause k))

/-- The rule of a note with a default. -/
def noteRule (text : String) : Rule :=
  ⟨"note", .string, some ⟨false, 0⟩, some ⟨false, 32 * Binary64.one⟩, .text text, false, none⟩

/-- A note with that default, as it is read from MySQL. -/
def reportedNote (text : String) : LiveColumn :=
  ⟨"varchar", some 32, true, Live.plainDefault text, some "note"⟩

/-- A table of users with such notes. -/
def notedUsers (text : String) : Snapshot :=
  ⟨Std.ExtTreeMap.ofList [("note", reportedNote text)], ∅⟩

/-- A quote and the word for null inside a text are reported as they are, and no plan alters it. -/
theorem text_default_rests_quoted :
    Rule.validate .mysql "note" "note|string|0|32|it's null|0|null" = .ok (noteRule "it's null") ∧
      IsShaped .mysql (reportedNote "it's null") (noteRule "it's null") ∧
        ∃ p, planLiveTable .mysql {} "user" [⟨"note", noteRule "it's null"⟩]
            (notedUsers "it's null") = .ok p ∧ p.plan.defaults = [] := by
  have hvalid : Rule.validate .mysql "note" "note|string|0|32|it's null|0|null" =
      .ok (noteRule "it's null") := eq_ok_of_toOption (by decide +kernel)
  have hshaped : IsShaped .mysql (reportedNote "it's null") (noteRule "it's null") :=
    ⟨by decide +kernel, by decide +kernel⟩
  have hlive : (notedUsers "it's null").columns["note"]? = some (reportedNote "it's null") := by
    decide +kernel
  have hplain : Live.IsPlain "it's null" := by decide +kernel
  obtain ⟨p, hplan, hnone⟩ :=
    ((text_default_rests_iff hvalid rfl hshaped rfl {}).2 "user" _ hlive).1
  exact ⟨hvalid, hshaped, p, hplan, hnone.2 hplain⟩

/-- **A text that begins with a blank is not found again**: it differs from what is reported of it,
and its default is altered. -/
theorem blank_default_altered :
    ¬ ∀ (key raw : String) (r : Rule) (text : String) (live : LiveColumn) (o : Options),
        Rule.validate .mysql key raw = .ok r → r.default = .text text →
          IsShaped .mysql live r → live.comment = some r.label →
            live.default = Live.plainDefault text →
              changes (o.statesComments .mysql) live (Field.column .mysql ⟨key, r⟩) = [] ∧
                ∀ (table : String) (s : Snapshot) (p : Planned), s.columns[key]? = some live →
                  planLiveTable .mysql o table [⟨key, r⟩] s = .ok p → p.plan.defaults = [] := by
  intro hclaim
  have hvalid : Rule.validate .mysql "note" "note|string|0|32| x|0|null" = .ok (noteRule " x") :=
    eq_ok_of_toOption (by decide +kernel)
  have hsame := (hclaim "note" _ (noteRule " x") " x" (reportedNote " x") {} hvalid rfl
    ⟨by decide +kernel, by decide +kernel⟩ rfl rfl).1
  have hdiffers : changes (Options.statesComments {} .mysql) (reportedNote " x")
      (Field.column .mysql ⟨"note", noteRule " x"⟩) = [⟨.default, "x", "' x'"⟩] := by
    decide +kernel
  rw [hsame] at hdiffers
  cases hdiffers

end Conform

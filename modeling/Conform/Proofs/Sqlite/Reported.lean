/-
**New columns are reported as they are wanted.**

The type of a column is written with its length, and its default as a literal or a number.  What
introspection makes of these texts is the type, the length and the default again, for every length
that can be declared, every number and every string.

Main definitions:

* `Sqlite.Column.reported` — what is reported of a column;
* `Sqlite.reporting` — **how SQLite reports what it was told**.

Main results:

* `alike_text` — a length does not change what a type means;
* `declaredLength?_text` — **the length of a type is read back**;
* `plainDefault_literalText` — **a string is read back** from its literal;
* `Sqlite.reporting_shows` — a new column is reported without a difference.
-/

import Conform.Proofs.Live.Literals
import Conform.Proofs.Live.Spellings
import Conform.Proofs.Plan.Effect
import Conform.Proofs.Sqlite.Reading
import Conform.Sqlite.Backend

set_option relaxedAutoImplicit false
set_option autoImplicit false

namespace Conform

/-! ### Types -/

theorem toList_text (st : Storage) (n : Nat) :
    (ColumnType.text ⟨st, some n⟩).toList =
      st.keyword.toList ++ '(' :: (Nat.toDigits 10 n ++ [')']) := by
  have htext : ColumnType.text ⟨st, some n⟩ = st.keyword ++ "(" ++ toString n ++ ")" := by
    simp [ColumnType.text, toString]
  rw [htext]
  simp

theorem parenthesis_not_mem_keyword (st : Storage) : '(' ∉ st.keyword.toList := by
  cases st <;> decide

theorem digit_plain {n : Nat} {c : Char} (h : c ∈ Nat.toDigits 10 n) :
    Text.isBlank c = false ∧ c ≠ '(' ∧ c ≠ ')' ∧ c ≠ ',' ∧ c ≠ '+' := by
  have hdigit : c.isDigit = true := Nat.isDigit_of_mem_toDigits (by decide) (by decide) h
  refine ⟨isBlank_of_digit_or_minus (.inl hdigit), ?_, ?_, ?_, ?_⟩ <;>
    · rintro rfl
      exact absurd hdigit (by decide)

/-- **A length is one more spelling of a type.** -/
theorem alike_text (t : ColumnType) : TypeName.Alike t.text t.storage.keyword := by
  obtain ⟨st, length⟩ := t
  refine ⟨st.keyword.toList, parenthesis_not_mem_keyword st, ?_, .plain (.refl _)⟩
  cases length with
  | none => exact .plain (.refl _)
  | some n =>
      rw [toList_text]
      exact .parenthesised _ (.refl _)

/-- A number below `2 ^ 64` is read back as a length. -/
theorem length?_toDigits {n : Nat} (h : n < Numeral.lengthLimit) :
    Numeral.length? (Nat.toDigits 10 n) = some n := by
  unfold Numeral.length?
  split
  next rest hplus =>
    have hmem : '+' ∈ Nat.toDigits 10 n := by rw [hplus]; exact List.mem_cons_self ..
    exact absurd rfl (digit_plain hmem).2.2.2.2
  · simp only [Numeral.natural?_toDigits, Option.bind_some, if_pos h]

/-- **The length of a type is read back.** -/
theorem declaredLength?_text (st : Storage) {n : Nat} (h : n < Numeral.lengthLimit) :
    TypeName.declaredLength? (ColumnType.text ⟨st, some n⟩) = some n := by
  have hopen : Text.cut '(' (st.keyword.toList ++ '(' :: (Nat.toDigits 10 n ++ [')'])) =
      some (st.keyword.toList, Nat.toDigits 10 n ++ [')']) :=
    Text.cut_eq_some_iff.2 ⟨parenthesis_not_mem_keyword st, rfl⟩
  have hclose : Text.cut ')' (Nat.toDigits 10 n ++ [')']) = some (Nat.toDigits 10 n, []) :=
    Text.cut_eq_some_iff.2 ⟨fun hm => (digit_plain hm).2.2.1 rfl, rfl⟩
  have hcomma : Text.before ',' (Nat.toDigits 10 n) = Nat.toDigits 10 n :=
    Text.before_eq_self fun hm => (digit_plain hm).2.2.2.1 rfl
  have htrim : Text.trim (Nat.toDigits 10 n) = Nat.toDigits 10 n :=
    Text.trim_eq_self (fun c hc => (digit_plain (List.mem_of_mem_head? hc)).1)
      fun c hc => (digit_plain (List.mem_of_mem_getLast? hc)).1
  rw [TypeName.declaredLength?, toList_text, hopen]
  simp only [Option.bind_some, hclose, hcomma, htrim, length?_toDigits h]

/-! ### Defaults -/

/-- **A string is read back from its literal**, whatever characters it has. -/
theorem plainDefault_literalText (s : String) :
    Live.plainDefault (Sqlite.Command.literalText s) = some s := by
  have hlist : (Sqlite.Command.literalText s).toList = Live.quoted s.toList ++ [] := by
    rw [List.append_nil]
    exact String.toList_ofList
  rw [Live.plainDefault_quoted hlist nofun, String.ofList_toList]

namespace Sqlite

/-- **What is reported of a column** whose type is a text. -/
def Column.reported (c : Column) : LiveColumn :=
  { type := c.type.getD "", length := TypeName.declaredLength? (c.type.getD "")
    nullable := !c.notNull, default := c.default.bind Live.plainDefault, comment := none }

/-- A column whose type is a text is reported by its name. -/
theorem Column.live?_eq_some {c : Column} (h : c.type.isSome = true) :
    c.live? = some (c.name, c.reported) := by
  obtain ⟨type, htype⟩ := Option.isSome_iff_exists.1 h
  simp [Column.live?, Column.reported, htype]

/-- **How SQLite reports what it was told.** -/
def reporting : Reporting :=
  { type := ColumnType.text
    length := fun t => TypeName.declaredLength? t.text
    default := fun v => v.text?.bind Live.plainDefault
    system := fun c => (Column.ofSystem c).reported }

/-- A wanted column is reported as it was told. -/
theorem reported_ofWanted (c : Conform.Column) :
    (Column.ofWanted c).reported = reporting.column c := rfl

/-- **A new column is reported without a difference.** -/
theorem reporting_shows {c : Conform.Column}
    (hlength : ∀ n, c.type.length = some n → n < Numeral.lengthLimit) : reporting.Shows c := by
  refine ⟨?_, fun n hn => ?_, ?_⟩
  · exact beq_iff_eq.2 (alike_text c.type).fold_eq
  · obtain ⟨key, ⟨st, length⟩, default, label, indexed⟩ := c
    obtain rfl : length = some n := hn
    exact declaredLength?_text st (hlength n rfl)
  · change c.default.agrees (c.default.text?.bind Live.plainDefault) = true
    cases c.default with
    | absent => rfl
    | number n =>
        rw [Default.text?, Option.bind_some, Live.plainDefault_toString]
        exact Default.agrees_value? (.number n)
    | text s =>
        rw [Default.text?, Option.bind_some, plainDefault_literalText]
        exact Default.agrees_value? (.text s)

/-- The columns of declared fields are reported without a difference. -/
theorem reporting_shows_field {d : Dialect} {fields : List Field} (h : Declared d fields)
    {f : Field} (hf : f ∈ fields) : reporting.Shows (f.column d) :=
  reporting_shows fun _ hn => h.length_lt hf hn

end Sqlite

end Conform

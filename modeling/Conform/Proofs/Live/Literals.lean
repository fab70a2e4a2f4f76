/-
**Written defaults are read back from what is reported.**

A default is written as a number or as a literal, and a database reports it as SQL text, perhaps
with parentheses around it and a cast after it.  The form to which a report is brought is the value
that was written, whatever characters it has: quotes, blanks, colons, parentheses, the word for
null.  So a reported default tells defaults of one kind apart.

Main definitions:

* `Text.IsCompact` — texts without blanks at their ends;
* `Live.castText` — the cast that may follow a value;
* `Default.sql?` — a default as it is written;
* `Default.SameKind` — that two defaults are both absent, both numbers, or both texts.

Main results:

* `Text.trim_append` — only the end of what follows a compact text is trimmed;
* `Live.plainDefault_quoted` — **a literal is read back**, whatever follows it;
* `Live.plainDefault_literal` — the literals of the dialects, of which MySQL's keep their
  backslashes doubled;
* `Live.castDefault_quoted`, `Live.castDefault_toString` — literals and numbers with casts;
* `literals_read_back` — **literals, numbers and defaults**.
-/

import Conform.Live.Default
import Conform.Proofs.Live.Value
import Conform.Sql.Statement

set_option relaxedAutoImplicit false
set_option autoImplicit false

namespace Conform

/-! ### Trimming what follows a text -/

namespace Text

/-- **A text that has characters, and no blank at either end.** -/
structure IsCompact (s : List Char) : Prop where
  first : ∃ c, s.head? = some c ∧ isBlank c = false
  last : ∃ c, s.getLast? = some c ∧ isBlank c = false

theorem trimEnd_append {a : List Char} (h : IsCompact a) (b : List Char) :
    trimEnd (a ++ b) = a ++ trimEnd b := by
  obtain ⟨c, hc, hblank⟩ := h.last
  obtain ⟨front, rfl⟩ := List.getLast?_eq_some_iff.1 hc
  have hfront : (front ++ [c]).reverse.dropWhile isBlank = (front ++ [c]).reverse := by
    simp [hblank]
  rw [trimEnd, trimEnd, List.reverse_append, List.dropWhile_append, hfront]
  split
  next hnone => simp [List.isEmpty_iff.1 hnone]
  · simp

/-- **Only the end of what follows a compact text is trimmed.** -/
theorem trim_append {a : List Char} (h : IsCompact a) (b : List Char) :
    trim (a ++ b) = a ++ trimEnd b := by
  obtain ⟨c, hc, hblank⟩ := h.first
  have hstart : trimStart (a ++ b) = a ++ b := by
    cases a with
    | nil => cases hc
    | cons first rest =>
        obtain rfl := Option.some.inj hc
        simp [trimStart, hblank]
  rw [trim, hstart, trimEnd_append h]

/-- What is left of a text begins like it. -/
theorem head?_trimEnd_ne {s : List Char} {c : Char} (h : s.head? ≠ some c) :
    (trimEnd s).head? ≠ some c := by
  obtain ⟨dropped, hdropped⟩ : trimEnd s <+: s := by
    rw [← List.reverse_reverse s, trimEnd, List.reverse_reverse, List.reverse_prefix]
    exact List.dropWhile_suffix isBlank
  intro hfirst
  obtain ⟨rest, hrest⟩ := List.head?_eq_some_iff.1 hfirst
  refine h ?_
  rw [← hdropped, hrest]
  rfl

theorem double_eq_self {quote : Char} {s : List Char} (h : quote ∉ s) : double quote s = s := by
  induction s with
  | nil => rfl
  | cons c s ih =>
      obtain ⟨hc, hs⟩ := not_or.1 (mt List.mem_cons.2 h)
      rw [double_cons, if_neg (Ne.symm hc), ih hs]
      rfl

end Text

namespace Live

open Text Sql

/-! ### Literals -/

/-- A literal: a text between quotes, in which quotes are doubled. -/
def quoted (s : List Char) : List Char := literalQuote :: (double literalQuote s ++ [literalQuote])

theorem isCompact_quoted (s : List Char) : IsCompact (quoted s) where
  first := ⟨literalQuote, rfl, by decide⟩
  last := ⟨literalQuote, by rw [quoted, ← List.cons_append, List.getLast?_concat], by decide⟩

/-- **A literal is read back**, whatever characters it has, and whatever follows it but a quote. -/
theorem plainDefault_quoted {raw : String} {s rest : List Char}
    (hraw : raw.toList = quoted s ++ rest) (hrest : rest.head? ≠ some literalQuote) :
    plainDefault raw = some (String.ofList s) := by
  have htrim : trim raw.toList =
      literalQuote :: (double literalQuote s ++ literalQuote :: trimEnd rest) := by
    rw [hraw, trim_append (isCompact_quoted s)]
    simp [quoted]
  have hnull : lower (trim raw.toList) ≠ ['n', 'u', 'l', 'l'] := by
    rw [htrim]
    intro e
    exact absurd (List.cons.inj e).1 (by decide)
  have hbody : undouble literalQuote (double literalQuote s ++ literalQuote :: trimEnd rest) = s :=
    undouble_double s (head?_trimEnd_ne hrest)
  simp only [plainDefault, if_neg hnull]
  rw [htrim]
  exact congrArg (some ∘ String.ofList) hbody

/-- The characters that a literal stands for once its quotes are gone. -/
def kept (d : Dialect) (s : List Char) : List Char :=
  match d with
  | .mysql => double '\\' s
  | .postgres | .sqlite => s

theorem chars_literal (d : Dialect) (s : String) :
    chars d [literal s] = quoted (kept d s.toList) := by
  cases d <;> simp [literal, Piece.write, Token.write, quoteLiteral, escapeLiteral, quoted, kept]

/-- **The literal of a dialect is read back**, except that MySQL's keeps its backslashes doubled. -/
theorem plainDefault_literal (d : Dialect) (s : String) :
    plainDefault (Sql.write d [literal s]) = some (String.ofList (kept d s.toList)) := by
  have hraw : (Sql.write d [literal s]).toList = quoted (kept d s.toList) ++ [] := by
    rw [toList_write, chars_literal, List.append_nil]
  exact plainDefault_quoted hraw nofun

/-- **A literal of SQLite is read back.** -/
theorem plainDefault_sqlite_literal (s : String) :
    plainDefault (Sql.write .sqlite [literal s]) = some s := by
  rw [plainDefault_literal, kept, String.ofList_toList]

/-! ### Casts -/

/-- The cast that may follow a value. -/
def castText : Option String → String
  | none => ""
  | some type => "::" ++ type

theorem toList_castText_some (type : String) :
    (castText (some type)).toList = ':' :: ':' :: type.toList := by
  rw [castText, String.toList_append]
  rfl

theorem head?_castText_ne (cast : Option String) :
    (castText cast).toList.head? ≠ some literalQuote := by
  cases cast with
  | none => nofun
  | some type =>
      rw [toList_castText_some]
      exact fun e => absurd (Option.some.inj e) (by decide)

/-- **A literal with a cast is read back.** -/
theorem castDefault_quoted {raw : String} {s : List Char} (cast : Option String)
    (hraw : raw.toList = quoted s ++ (castText cast).toList) :
    castDefault raw = some (String.ofList s) := by
  have htrim : trim raw.toList = quoted s ++ trimEnd (castText cast).toList := by
    rw [hraw, trim_append (isCompact_quoted s)]
  rw [castDefault, htrim]
  exact plainDefault_quoted String.toList_ofList (head?_trimEnd_ne (head?_castText_ne cast))

/-- **A literal of PostgreSQL is read back**, with any cast after it. -/
theorem castDefault_postgres_literal (s : String) (cast : Option String) :
    castDefault (Sql.write .postgres [literal s] ++ castText cast) = some s := by
  have hraw : (Sql.write .postgres [literal s] ++ castText cast).toList =
      quoted s.toList ++ (castText cast).toList := by
    rw [String.toList_append, toList_write, chars_literal]
    rfl
  rw [castDefault_quoted cast hraw, String.ofList_toList]

theorem beforeCast_cons {c : Char} (h : c ≠ ':') (s : List Char) :
    beforeCast (c :: s) = c :: beforeCast s := by
  rw [beforeCast]
  exact fun rest e => absurd e h

/-- A text without colons is what stands before its cast. -/
theorem beforeCast_append {a : List Char} (h : ':' ∉ a) (cast : Option String) :
    beforeCast (a ++ trimEnd (castText cast).toList) = a := by
  induction a with
  | nil =>
      cases cast with
      | none => rfl
      | some type =>
          have hcolons : IsCompact [':', ':'] := ⟨⟨':', rfl, by decide⟩, ⟨':', rfl, by decide⟩⟩
          have htrim : trimEnd (castText (some type)).toList =
              ':' :: ':' :: trimEnd type.toList := by
            rw [toList_castText_some]
            exact trimEnd_append hcolons _
          rw [htrim]
          rfl
  | cons c a ih =>
      obtain ⟨hc, ha⟩ := not_or.1 (mt List.mem_cons.2 h)
      rw [List.cons_append, beforeCast_cons (Ne.symm hc), ih ha]

/-- **Of what is no literal the cast is left out**, and the parentheses around the rest. -/
theorem castDefault_unquoted {raw : String} {a : List Char} {cast : Option String}
    (hraw : raw.toList = a ++ (castText cast).toList) (ha : IsCompact a)
    (hquote : literalQuote ∉ a) (hcolon : ':' ∉ a) :
    castDefault raw = plainDefault (String.ofList (dropParentheses a)) := by
  have htrim : trim raw.toList = a ++ trimEnd (castText cast).toList := by
    rw [hraw, trim_append ha]
  rw [castDefault, htrim]
  split
  next rest heq =>
    -- the text has a first character, and it is no quote
    obtain ⟨c, hc, -⟩ := ha.first
    obtain ⟨tail, rfl⟩ := List.head?_eq_some_iff.1 hc
    refine absurd ?_ hquote
    rw [(List.cons.inj heq).1]
    exact List.mem_cons_self ..
  · rw [beforeCast_append hcolon]

/-! ### Numbers -/

theorem isCompact_of_forall {s : List Char} (hne : s ≠ []) (h : ∀ c ∈ s, isBlank c = false) :
    IsCompact s where
  first := ⟨s.head hne, List.head?_eq_some_head hne, h _ (List.head_mem hne)⟩
  last := ⟨s.getLast hne, List.getLast?_eq_some_getLast hne, h _ (List.getLast_mem hne)⟩

theorem toString_int_ne_nil (i : Int) : (toString i).toList ≠ [] := by
  rw [toList_toString_int]
  cases i with
  | ofNat n => exact Nat.toDigits_ne_nil
  | negSucc n => exact List.cons_ne_nil _ _

theorem dropWhile_replicate_append {c : Char} {s : List Char} (h : s.head? ≠ some c) (n : Nat) :
    (List.replicate n c ++ s).dropWhile (· == c) = s := by
  induction n with
  | zero =>
      cases s with
      | nil => rfl
      | cons first rest =>
          have hfirst : first ≠ c := fun e => h (congrArg some e)
          simp [hfirst]
  | succ n ih => simpa [List.replicate_succ] using ih

/-- **Parentheses around a text are dropped**, when it has none of its own. -/
theorem dropParentheses_append {s : List Char} (hne : s ≠ []) (hopen : '(' ∉ s)
    (hclose : ')' ∉ s) (n : Nat) :
    dropParentheses (List.replicate n '(' ++ s ++ List.replicate n ')') = s := by
  have hfirst : (s ++ List.replicate n ')').head? ≠ some '(' := by
    obtain ⟨c, rest, rfl⟩ := List.exists_cons_of_ne_nil hne
    exact fun e => hopen (Option.some.inj e ▸ List.mem_cons_self ..)
  have hlast : s.reverse.head? ≠ some ')' := by
    rw [List.head?_reverse]
    exact fun e => hclose (List.mem_of_mem_getLast? e)
  rw [dropParentheses, List.append_assoc, dropWhile_replicate_append hfirst, List.reverse_append,
    List.reverse_replicate, dropWhile_replicate_append hlast, List.reverse_reverse]

/-- A number is no null, and it is no literal. -/
theorem plainDefault_toString (i : Int) : plainDefault (toString i) = some (toString i) := by
  have hnull : lower (toString i).toList ≠ ['n', 'u', 'l', 'l'] := by
    intro e
    have hmem : 'l' ∈ lower (toString i).toList := by rw [e]; decide
    obtain ⟨c, hc, hl⟩ := List.mem_map.1 hmem
    rcases digit_or_minus_of_mem hc with hdigit | rfl
    · obtain ⟨hlow, hhigh⟩ := toNat_of_isDigit hdigit
      have hkept : c.toLower = c := by
        unfold Char.toLower
        split
        next hupper =>
          have hcapital : 65 ≤ c.toNat := UInt32.le_iff_toNat_le.1 hupper.1
          omega
        · rfl
      rw [hkept] at hl
      rw [hl] at hdigit
      exact absurd hdigit (by decide)
    · exact absurd hl (by decide)
  have hquote : '\x27' ∉ (toString i).toList := not_mem_toString_int (by decide) (by decide)
  rw [plainDefault]
  simp only [trim_toString_int, if_neg hnull]
  split
  next rest heq =>
    rw [heq] at hquote
    exact absurd (List.mem_cons_self ..) hquote
  · rw [String.ofList_toList]

/-- **A number is read back** from what is reported of it: in parentheses, and with a cast. -/
theorem castDefault_toString {raw : String} (i : Int) (n : Nat) (cast : Option String)
    (hraw : raw.toList = List.replicate n '(' ++ (toString i).toList ++ List.replicate n ')' ++
      (castText cast).toList) :
    castDefault raw = some (toString i) := by
  have hmem : ∀ c ∈ List.replicate n '(' ++ (toString i).toList ++ List.replicate n ')',
      c = '(' ∨ c ∈ (toString i).toList ∨ c = ')' := by
    intro c hc
    simp only [List.mem_append, List.mem_replicate] at hc
    exact or_assoc.1 (hc.imp (Or.imp_left And.right) And.right)
  have habsent : ∀ {c : Char}, c.isDigit = false → c ≠ '-' → c ≠ '(' → c ≠ ')' →
      c ∉ List.replicate n '(' ++ (toString i).toList ++ List.replicate n ')' := by
    intro c hdigit hminus hopen hclose hc
    rcases hmem c hc with h | h | h
    · exact hopen h
    · exact not_mem_toString_int hdigit hminus h
    · exact hclose h
  have hcompact : IsCompact
      (List.replicate n '(' ++ (toString i).toList ++ List.replicate n ')') := by
    have hne : List.replicate n '(' ++ (toString i).toList ++ List.replicate n ')' ≠ [] :=
      List.append_ne_nil_of_left_ne_nil
        (List.append_ne_nil_of_right_ne_nil _ (toString_int_ne_nil i)) _
    refine isCompact_of_forall hne fun c hc => ?_
    rcases hmem c hc with rfl | h | rfl
    · decide
    · exact isBlank_of_digit_or_minus (digit_or_minus_of_mem h)
    · decide
  rw [castDefault_unquoted hraw hcompact (habsent (by decide) (by decide) (by decide) (by decide))
      (habsent (by decide) (by decide) (by decide) (by decide)),
    dropParentheses_append (toString_int_ne_nil i) (not_mem_toString_int (by decide) (by decide))
      (not_mem_toString_int (by decide) (by decide)),
    String.ofList_toList, plainDefault_toString]

end Live

/-! ### Defaults -/

namespace Default

/-- **A default as it is written**, if there is one. -/
def sql? (d : Dialect) (v : Default) : Option String := v.layout?.map (Sql.write d)

/-- **That two defaults are both absent, both numbers, or both texts.** -/
def SameKind : Default → Default → Prop
  | .absent, .absent | .number _, .number _ | .text _, .text _ => True
  | _, _ => False

theorem sql?_number (d : Dialect) (n : Int64) : sql? d (.number n) = some (toString n.toInt) := by
  have hwrite : ∀ i : Int, Sql.write d (integerLayout i) = toString i := by
    intro i
    apply String.toList_injective
    rw [Sql.toList_write, toList_toString_int]
    cases i with
    | ofNat n => simp [integerLayout, Sql.word, Sql.Piece.write, Sql.Token.write]
    | negSucc n => simp [integerLayout, Sql.word, Sql.mark, Sql.Piece.write, Sql.Token.write]
  exact congrArg some (hwrite n.toInt)

theorem sql?_text (d : Dialect) (s : String) :
    sql? d (.text s) = some (Sql.write d [Sql.literal s]) := rfl

/-- **What SQLite reports of a default is read as its value.** -/
theorem plainDefault_sql? (v : Default) : (v.sql? .sqlite).bind Live.plainDefault = v.value? := by
  cases v with
  | absent => rfl
  | number n =>
      rw [sql?_number, Option.bind_some, Live.plainDefault_toString]
      rfl
  | text s =>
      rw [sql?_text, Option.bind_some, Live.plainDefault_sqlite_literal]
      rfl

/-- **What PostgreSQL reports of a default is read as its value**, with any cast. -/
theorem castDefault_sql? (v : Default) (cast : Option String) :
    ((v.sql? .postgres).bind fun sql => Live.castDefault (sql ++ Live.castText cast)) =
      v.value? := by
  cases v with
  | absent => rfl
  | number n =>
      rw [sql?_number, Option.bind_some, Live.castDefault_toString n.toInt 0 cast (by simp)]
      rfl
  | text s =>
      rw [sql?_text, Option.bind_some, Live.castDefault_postgres_literal]
      rfl

/-- **Of defaults of one kind, only that of a value agrees with it.** -/
theorem agrees_value?_iff {v w : Default} (h : v.SameKind w) :
    w.agrees v.value? = true ↔ w = v := by
  cases v with
  | absent =>
      cases w with
      | absent => exact iff_of_true rfl rfl
      | _ => cases h
  | number n =>
      cases w with
      | number m =>
          change (integerValue? (toString n.toInt) == some m) = true ↔ _
          rw [integerValue?_toString, beq_iff_eq, Option.some.injEq, number.injEq]
          exact eq_comm
      | _ => cases h
  | text s =>
      cases w with
      | text s' => simp [agrees, value?]
      | _ => cases h

end Default

/-! ### All of this together -/

/-- **Literals, numbers and defaults are read back.**  A literal of SQLite is read as its text, and
so is one of PostgreSQL with any cast after it, or none.  A number is read as it is written, and
from PostgreSQL also in parentheses, in quotes and with a cast.  So of two defaults of one kind, the
second agrees with what is read of the first exactly when they are the same. -/
theorem literals_read_back :
    (∀ s : String, Live.plainDefault (Sql.write .sqlite [Sql.literal s]) = some s) ∧
    (∀ (s : String) (cast : Option String),
      Live.castDefault (Sql.write .postgres [Sql.literal s] ++ Live.castText cast) = some s) ∧
    (∀ n : Int64, Live.plainDefault (toString n.toInt) = some (toString n.toInt) ∧
      ∀ cast : Option String,
        Live.castDefault (toString n.toInt ++ Live.castText cast) = some (toString n.toInt) ∧
        Live.castDefault ("(" ++ toString n.toInt ++ ")" ++ Live.castText cast) =
          some (toString n.toInt) ∧
        Live.castDefault ("'" ++ toString n.toInt ++ "'" ++ Live.castText cast) =
          some (toString n.toInt)) ∧
    ∀ v w : Default, v.SameKind w →
      (w.agrees ((v.sql? .sqlite).bind Live.plainDefault) = true ↔ w = v) ∧
      ∀ cast : Option String,
        (w.agrees ((v.sql? .postgres).bind fun sql => Live.castDefault (sql ++ Live.castText cast))
          = true ↔ w = v) := by
  refine ⟨Live.plainDefault_sqlite_literal, Live.castDefault_postgres_literal, fun n => ?_, ?_⟩
  · refine ⟨Live.plainDefault_toString _, fun cast => ⟨?_, ?_, ?_⟩⟩
    · exact Live.castDefault_toString _ 0 cast (by simp)
    · exact Live.castDefault_toString _ 1 cast (by simp)
    · have hraw : ("'" ++ toString n.toInt ++ "'" ++ Live.castText cast).toList =
          Live.quoted (toString n.toInt).toList ++ (Live.castText cast).toList := by
        rw [Live.quoted, Text.double_eq_self (not_mem_toString_int (by decide) (by decide))]
        simp [Sql.literalQuote]
      rw [Live.castDefault_quoted cast hraw, String.ofList_toList]
  · intro v w hkind
    refine ⟨?_, fun cast => ?_⟩
    · rw [Default.plainDefault_sql?, Default.agrees_value?_iff hkind]
    · rw [Default.castDefault_sql?, Default.agrees_value?_iff hkind]

/-- A text of a quote, colons and the word for null is read back with a cast; two texts that differ
in a blank are told apart. -/
theorem literals_read_back_blank :
    Live.castDefault (Sql.write .postgres [Sql.literal "it's::NULL"] ++
      Live.castText (some "character varying")) = some "it's::NULL" ∧
    (Default.text "x").SameKind (.text " x") ∧
    ((Default.text " x").agrees ((Default.sql? .sqlite (.text "x")).bind Live.plainDefault) = true ↔
      Default.text " x" = Default.text "x") := by
  have hkind : (Default.text "x").SameKind (.text " x") := trivial
  exact ⟨literals_read_back.2.1 _ _, hkind, (literals_read_back.2.2.2 _ _ hkind).1⟩

end Conform

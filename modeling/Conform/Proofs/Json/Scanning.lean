/-
**The scanner finds the tokens that are written.**

A word and a number end only where another character follows, so the scanner holds them until it
sees white space, a mark or the end of the text.  In the tokens of a value a mark stands between any
two others, and therefore the scanner finds exactly these tokens, however each of them is spelled
and whatever white space is around them.

Main definitions:

* `Json.scanFrom` — the tokens of what is left of a text;
* `Json.Ends` — the texts before which every token ends;
* `Json.NumberPart.afterDigits` — the part that a number is in after digits.

Main results:

* `Json.scanFrom_of_finish` — what is held is complete where it ends;
* `Json.scanFrom_number`, `Json.scanFrom_units` — numbers and strings are read whole;
* `Json.scan_of_spellsTokens` — **the scanner finds the tokens that are written**.
-/

import Conform.Proofs.Json.Grammar

set_option relaxedAutoImplicit false
set_option autoImplicit false

namespace Conform

namespace Json

/-! ### One character at a time -/

/-- The tokens of what is left of a text. -/
def scanFrom : Reading → List Char → Option (List Token)
  | q, [] => finish q
  | q, c :: s => (step q c).bind fun r => (scanFrom r.1 s).map (r.2 ++ ·)

theorem foldl_advance_none (s : List Char) : s.foldl advance none = none := by
  induction s with
  | nil => rfl
  | cons c s ih => exact ih

theorem foldl_advance (s : List Char) (q : Reading) (ts : List Token) :
    ((s.foldl advance (some (q, ts))).bind fun p =>
      (finish p.1).map fun last => p.2.reverse ++ last) = (scanFrom q s).map (ts.reverse ++ ·) := by
  induction s generalizing q ts with
  | nil => rfl
  | cons c s ih =>
      rw [List.foldl_cons, scanFrom]
      cases hstep : step q c with
      | none =>
          have hnone : advance (some (q, ts)) c = none := by simp [advance, hstep]
          rw [hnone, foldl_advance_none]
          rfl
      | some r =>
          have hsome : advance (some (q, ts)) c = some (r.1, r.2.reverse ++ ts) := by
            simp [advance, hstep]
          rw [hsome, ih]
          simp [Function.comp_def]

theorem scan_eq_scanFrom (s : List Char) : scan s = scanFrom .between s := by
  have h := foldl_advance s .between []
  simpa [scan] using h

/-- A character that completes no token. -/
theorem scanFrom_cons_of_step {q r : Reading} {c : Char} (h : step q c = some (r, []))
    (s : List Char) : scanFrom q (c :: s) = scanFrom r s := by
  simp [scanFrom, h]

/-! ### Where tokens end -/

/-- The characters that continue no token. -/
def delimiters : List Char := [' ', '\t', '\n', '\r', '\x7b', '\x7d', '[', ']', ':', ',']

/-- **The texts before which every token ends.** -/
def Ends (s : List Char) : Prop := ∀ c ∈ s.head?, c ∈ delimiters

theorem Ends.cons {c : Char} (h : c ∈ delimiters) (s : List Char) : Ends (c :: s) :=
  fun _ hd => Option.mem_some.1 hd ▸ h

theorem isLower_of_delimiter : ∀ c ∈ delimiters, c.isLower = false := by simp [delimiters]

theorem next?_of_delimiter : ∀ c ∈ delimiters, ∀ part ∈
    [NumberPart.zero, .whole, .fraction, .exponentDigits], part.next? c = none := by
  simp [delimiters, NumberPart.next?]

/-- A delimiter completes what is held, and then counts as if it stood alone. -/
theorem step_of_finish {q : Reading} {held : List Token} {c : Char} (hq : finish q = some held)
    (hc : c ∈ delimiters) : step q c = (start c).map fun r => (r.1, held ++ r.2) := by
  cases q with
  | between =>
      obtain rfl : [] = held := Option.some.inj hq
      simp [step]
  | word read =>
      obtain ⟨t, ht, rfl⟩ := Option.map_eq_some_iff.1 hq
      simp [step, isLower_of_delimiter c hc, ht, startAfter]
  | number part =>
      have hnext : part.complete = true → part.next? c = none := by
        intro hcomplete
        refine next?_of_delimiter c hc part ?_
        cases part <;> first | decide | cases hcomplete
      by_cases hcomplete : part.complete = true
      · rw [finish, if_pos hcomplete] at hq
        obtain rfl : [Token.number] = held := Option.some.inj hq
        simp [step, hnext hcomplete, hcomplete, startAfter]
      · rw [finish, if_neg hcomplete] at hq
        cases hq
  | string read => cases hq
  | escape read => cases hq
  | hex read left value => cases hq

/-- **What is held is complete where it ends.** -/
theorem scanFrom_of_finish {q : Reading} {held : List Token} {s : List Char}
    (hq : finish q = some held) (hs : Ends s) :
    scanFrom q s = (scanFrom .between s).map (held ++ ·) := by
  cases s with
  | nil =>
      rw [scanFrom, hq]
      simp [scanFrom, finish]
  | cons c s =>
      rw [scanFrom, scanFrom, step_of_finish hq (hs c rfl)]
      have hbetween : step .between c = start c := rfl
      rw [hbetween]
      cases start c <;> simp [Function.comp_def]

/-! ### Words -/

/-- A word is read up to where it ends. -/
theorem scanFrom_letters {letters : List Char} (h : ∀ c ∈ letters, c.isLower = true)
    (read s : List Char) :
    scanFrom (.word read) (letters ++ s) = scanFrom (.word (letters.reverse ++ read)) s := by
  induction letters generalizing read with
  | nil => rfl
  | cons c letters ih =>
      have hstep : step (.word read) c = some (.word (c :: read), []) := by
        simp [step, h c (List.mem_cons_self ..)]
      rw [List.cons_append, scanFrom_cons_of_step hstep,
        ih fun c hc => h c (List.mem_cons_of_mem _ hc)]
      simp

theorem scanFrom_word {c : Char} {s : List Char} {t : Token} (letters : List Char)
    (hc : start c = some (.word [c], [])) (h : ∀ c ∈ letters, c.isLower = true)
    (ht : wordToken? (letters.reverse ++ [c]) = some t) (hs : Ends s) :
    scanFrom .between (c :: (letters ++ s)) = (scanFrom .between s).map ([t] ++ ·) := by
  rw [scanFrom_cons_of_step (q := .between) hc, scanFrom_letters h]
  exact scanFrom_of_finish (by rw [finish, ht]; rfl) hs

/-! ### Numbers -/

/-- The part that a number is in after digits. -/
def NumberPart.afterDigits : NumberPart → NumberPart
  | minus | zero | whole => whole
  | point | fraction => fraction
  | exponent | exponentSign | exponentDigits => exponentDigits

/-- The parts after which any digit may stand, also a zero before others. -/
def NumberPart.TakesDigits (p : NumberPart) : Prop := p ≠ .minus ∧ p ≠ .zero

theorem NumberPart.TakesDigits.next? {p : NumberPart} (hp : p.TakesDigits) {c : Char}
    (hc : c.isDigit = true) : p.next? c = some p.afterDigits := by
  obtain ⟨hminus, hzero⟩ := hp
  cases p with
  | minus => exact absurd rfl hminus
  | zero => exact absurd rfl hzero
  | whole | point | fraction | exponent | exponentSign | exponentDigits =>
      simp [NumberPart.next?, afterDigits, hc]

theorem NumberPart.TakesDigits.afterDigits {p : NumberPart} (hp : p.TakesDigits) :
    p.afterDigits.TakesDigits ∧ p.afterDigits.afterDigits = p.afterDigits := by
  obtain ⟨hminus, hzero⟩ := hp
  cases p <;> simp_all [TakesDigits, NumberPart.afterDigits]

/-- A character that a number goes on with. -/
theorem scanFrom_next {p q : NumberPart} {c : Char} (h : p.next? c = some q) (s : List Char) :
    scanFrom (.number p) (c :: s) = scanFrom (.number q) s :=
  scanFrom_cons_of_step (by simp [step, h]) s

/-- Digits are read up to the last one. -/
theorem scanFrom_digits {p : NumberPart} (hp : p.TakesDigits) {digits : List Char}
    (h : IsDigits digits) (s : List Char) :
    scanFrom (.number p) (digits ++ s) = scanFrom (.number p.afterDigits) s := by
  obtain ⟨c, digits, rfl⟩ := List.exists_cons_of_ne_nil h.nonempty
  obtain ⟨hafter, hrest⟩ := hp.afterDigits
  have hdigits : ∀ d ∈ digits, d.isDigit = true := fun d hd =>
    h.digits d (List.mem_cons_of_mem _ hd)
  rw [List.cons_append, scanFrom_next (hp.next? (h.digits c (List.mem_cons_self ..)))]
  -- after the first digit, the part of the number is the same before and after each digit
  clear h
  induction digits with
  | nil => rfl
  | cons d digits ih =>
      have hd := hafter.next? (hdigits d (List.mem_cons_self ..))
      rw [List.cons_append, scanFrom_next hd, hrest]
      exact ih fun c hc => hdigits c (List.mem_cons_of_mem _ hc)

theorem start_digit {c : Char} (h : c.isDigit = true) (hzero : c ≠ '0') :
    start c = some (.number .whole, []) := by
  have hne : ∀ d : Char, d.isDigit = false → c ≠ d := by
    rintro d hd rfl
    rw [h] at hd
    cases hd
  simp [start, isGap, h, hzero, hne ' ' rfl, hne '\t' rfl, hne '\n' rfl, hne '\r' rfl,
    hne '\x7b' rfl, hne '\x7d' rfl, hne '[' rfl, hne ']' rfl, hne ':' rfl, hne ',' rfl,
    hne '\x22' rfl, hne '-' rfl]

/-- A whole part is read, with a sign before it or without. -/
theorem scanFrom_whole {whole : List Char} (h : IsWhole whole) :
    ∃ p ∈ [NumberPart.zero, .whole], ∀ s,
      scanFrom .between (whole ++ s) = scanFrom (.number p) s ∧
      scanFrom (.number .minus) (whole ++ s) = scanFrom (.number p) s := by
  rcases h with rfl | ⟨hdigits, hhead⟩
  · exact ⟨.zero, by decide, fun s => ⟨scanFrom_cons_of_step rfl s, scanFrom_next rfl s⟩⟩
  · obtain ⟨c, digits, rfl⟩ := List.exists_cons_of_ne_nil hdigits.nonempty
    have hc : c.isDigit = true := hdigits.digits c (List.mem_cons_self ..)
    have hzero : c ≠ '0' := fun h => hhead (congrArg some h)
    have hminus : NumberPart.minus.next? c = some .whole := by simp [NumberPart.next?, hc, hzero]
    refine ⟨.whole, by decide, fun s => ?_⟩
    -- with no digits after the first one there is nothing more to read
    have hlater : scanFrom (.number .whole) (digits ++ s) = scanFrom (.number .whole) s := by
      cases digits with
      | nil => rfl
      | cons d digits =>
          exact scanFrom_digits (p := .whole) ⟨by decide, by decide⟩
            ⟨List.cons_ne_nil _ _, fun c hc => hdigits.digits c (List.mem_cons_of_mem _ hc)⟩ s
    rw [List.cons_append, scanFrom_cons_of_step (q := .between) (start_digit hc hzero),
      scanFrom_next hminus]
    exact ⟨hlater, hlater⟩

theorem scanFrom_fraction {p : NumberPart} (hp : p ∈ [NumberPart.zero, .whole])
    {fraction : List Char} (h : IsFraction fraction) :
    ∃ q ∈ [NumberPart.zero, .whole, .fraction], ∀ s,
      scanFrom (.number p) (fraction ++ s) = scanFrom (.number q) s := by
  rcases h with rfl | ⟨digits, hdigits, rfl⟩
  · have hmem : ∀ p ∈ [NumberPart.zero, .whole], p ∈ [NumberPart.zero, .whole, .fraction] := by
      decide
    exact ⟨p, hmem p hp, fun s => rfl⟩
  · have hpoint : ∀ p ∈ [NumberPart.zero, .whole], p.next? '.' = some .point := by decide
    refine ⟨.fraction, by decide, fun s => ?_⟩
    rw [List.cons_append, scanFrom_next (hpoint p hp)]
    exact scanFrom_digits (p := .point) ⟨by decide, by decide⟩ hdigits s

theorem scanFrom_exponent {p : NumberPart} (hp : p ∈ [NumberPart.zero, .whole, .fraction])
    {exponent : List Char} (h : IsExponent exponent) :
    ∃ q : NumberPart, q.complete = true ∧ ∀ s,
      scanFrom (.number p) (exponent ++ s) = scanFrom (.number q) s := by
  rcases h with rfl | ⟨letter, sign, digits, hletter, hsign, hdigits, rfl⟩
  · have hcomplete : ∀ p ∈ [NumberPart.zero, .whole, .fraction], p.complete = true := by decide
    exact ⟨p, hcomplete p hp, fun s => rfl⟩
  · have hnext : p.next? letter = some .exponent := by
      have hboth : ∀ p ∈ [NumberPart.zero, .whole, .fraction],
          p.next? 'e' = some .exponent ∧ p.next? 'E' = some .exponent := by decide
      rcases hletter with rfl | rfl
      · exact (hboth p hp).1
      · exact (hboth p hp).2
    have hexponent : NumberPart.exponent.TakesDigits := ⟨by decide, by decide⟩
    have hafterSign : NumberPart.exponentSign.TakesDigits := ⟨by decide, by decide⟩
    refine ⟨.exponentDigits, rfl, fun s => ?_⟩
    rw [List.cons_append, List.append_assoc, scanFrom_next hnext]
    rcases hsign with rfl | rfl | rfl
    · exact scanFrom_digits hexponent hdigits s
    · exact (scanFrom_next rfl _).trans (scanFrom_digits hafterSign hdigits s)
    · exact (scanFrom_next rfl _).trans (scanFrom_digits hafterSign hdigits s)

/-- **A number is read whole.** -/
theorem scanFrom_number {l s : List Char} (h : IsNumber l) (hs : Ends s) :
    scanFrom .between (l ++ s) = (scanFrom .between s).map ([.number] ++ ·) := by
  obtain ⟨sign, whole, fraction, exponent, hsign, hwhole, hfraction, hexponent, rfl⟩ := h
  obtain ⟨p, hp, hwhole⟩ := scanFrom_whole hwhole
  obtain ⟨q, hq, hfraction⟩ := scanFrom_fraction hp hfraction
  obtain ⟨r, hr, hexponent⟩ := scanFrom_exponent hq hexponent
  have hread : scanFrom .between (sign ++ (whole ++ (fraction ++ exponent)) ++ s) =
      scanFrom (.number r) s := by
    simp only [List.append_assoc]
    rcases hsign with rfl | rfl
    · rw [List.nil_append, (hwhole _).1, hfraction, hexponent]
    · rw [List.cons_append, List.nil_append, scanFrom_cons_of_step (r := .number .minus) rfl,
        (hwhole _).2, hfraction, hexponent]
  rw [hread]
  exact scanFrom_of_finish (by rw [finish, if_pos hr]) hs

/-! ### Strings -/

theorem escaped?_of_mem : ∀ p ∈ shorthands, p.1 ≠ 'u' ∧ escaped? p.1 = some p.2 := by decide

/-- Hexadecimal digits are read up to the last one. -/
theorem scanFrom_hex (read : List CodeUnit) {digits : List Char} {left : Nat}
    (hlength : digits.length = left + 1) (h : ∀ c ∈ digits, Text.isHexDigit c = true) (value : Nat)
    (s : List Char) :
    scanFrom (.hex read left value) (digits ++ s) =
      scanFrom (.string (.ofNat (digits.foldl
        (fun n c => 16 * n + (Text.hexDigit? c).getD 0) value) :: read)) s := by
  induction digits generalizing left value with
  | nil => cases hlength
  | cons c digits ih =>
      obtain ⟨x, hx⟩ := Option.isSome_iff_exists.1 (h c (List.mem_cons_self ..))
      rw [List.cons_append, List.foldl_cons, hx, Option.getD_some]
      cases left with
      | zero =>
          obtain rfl : digits = [] := by simpa using hlength
          exact scanFrom_cons_of_step (by simp [step, hx]) s
      | succ left =>
          rw [scanFrom_cons_of_step (r := .hex read left (16 * value + x)) (by simp [step, hx])]
          exact ih (by simpa using hlength) (fun c hc => h c (List.mem_cons_of_mem _ hc)) _

theorem scanFrom_unit {u : CodeUnit} {l : List Char} (h : u.Spells l) (read : List CodeUnit)
    (s : List Char) : scanFrom (.string read) (l ++ s) = scanFrom (.string (u :: read)) s := by
  have hbackslash : step (.string read) '\\' = some (.escape read, []) := rfl
  cases h with
  | @plain c quote backslash control =>
      refine scanFrom_cons_of_step ?_ s
      simp [step, quote, backslash, Nat.not_lt.2 control]
  | @short letter c h =>
      obtain ⟨hu, hescaped⟩ := escaped?_of_mem _ h
      have hletter : step (.escape read) letter = some (.string (.char c :: read), []) := by
        simp [step, hu, hescaped]
      exact (scanFrom_cons_of_step hbackslash _).trans (scanFrom_cons_of_step hletter s)
  | @hex n digits h =>
      have hcode : step (.escape read) 'u' = some (.hex read 3 0, []) := rfl
      rw [List.cons_append, List.cons_append, scanFrom_cons_of_step hbackslash,
        scanFrom_cons_of_step hcode, scanFrom_hex read h.length h.digits, ← h.value]
      rfl

/-- **What stands in a string is read up to its quote.** -/
theorem scanFrom_units {us : List CodeUnit} {l : List Char} (h : SpellsUnits us l)
    (read : List CodeUnit) (s : List Char) :
    scanFrom (.string read) (l ++ '\x22' :: s) =
      (scanFrom .between s).map ([.string (resolve (read.reverse ++ us))] ++ ·) := by
  induction h generalizing read with
  | nil => simp [scanFrom, step]
  | cons hu _ ih =>
      rw [List.append_assoc, scanFrom_unit hu, ih]
      simp

theorem scanFrom_string {us : List CodeUnit} {l : List Char} (h : SpellsUnits us l)
    (s : List Char) :
    scanFrom .between ('\x22' :: (l ++ ['\x22']) ++ s) =
      (scanFrom .between s).map ([.string (resolve us)] ++ ·) := by
  rw [List.cons_append, List.append_assoc, scanFrom_cons_of_step (r := .string []) rfl]
  exact scanFrom_units h [] s

/-! ### Tokens -/

theorem scanFrom_space {space : List Char} (h : IsSpace space) (s : List Char) :
    scanFrom .between (space ++ s) = scanFrom .between s := by
  induction space with
  | nil => rfl
  | cons c space ih =>
      have hgap : step .between c = some (.between, []) := by
        rcases h c (List.mem_cons_self ..) with rfl | rfl | rfl | rfl <;> rfl
      rw [List.cons_append, scanFrom_cons_of_step hgap]
      exact ih fun c hc => h c (List.mem_cons_of_mem _ hc)

theorem scanFrom_mark {c : Char} {t : Token} (h : start c = some (.between, [t])) (s : List Char) :
    scanFrom .between ([c] ++ s) = (scanFrom .between s).map ([t] ++ ·) := by
  have hstep : step .between c = some (.between, [t]) := h
  simp [scanFrom, hstep]

/-- **A token is read as it is spelled**, if it is a mark or ends before what follows. -/
theorem scanFrom_token {t : Token} {l s : List Char} (ht : t.Spells l) (hs : t.IsMark ∨ Ends s) :
    scanFrom .between (l ++ s) = (scanFrom .between s).map ([t] ++ ·) := by
  cases ht with
  | openBrace => exact scanFrom_mark rfl s
  | closeBrace => exact scanFrom_mark rfl s
  | openBracket => exact scanFrom_mark rfl s
  | closeBracket => exact scanFrom_mark rfl s
  | colon => exact scanFrom_mark rfl s
  | comma => exact scanFrom_mark rfl s
  | null => exact scanFrom_word ['u', 'l', 'l'] rfl (by simp) rfl (hs.resolve_left id)
  | true => exact scanFrom_word ['r', 'u', 'e'] rfl (by simp) rfl (hs.resolve_left id)
  | false => exact scanFrom_word ['a', 'l', 's', 'e'] rfl (by simp) rfl (hs.resolve_left id)
  | number h => exact scanFrom_number h (hs.resolve_left id)
  | @text text body h =>
      obtain ⟨us, hus, htext⟩ := exists_units_iff.2 h
      rw [scanFrom_string hus, htext]
  | @halves us body h alone =>
      have hnone : resolve us = none :=
        Option.eq_none_iff_forall_ne_some.2 fun text htext =>
          alone text (exists_units_iff.1 ⟨us, h, htext⟩)
      rw [scanFrom_string h, hnone]

/-- White space, marks and the end of the text end every token. -/
theorem ends_of_spellsTokens {ts : List Token} {s : List Char} (h : SpellsTokens ts s)
    (hmark : ∀ t ∈ ts.head?, t.IsMark) : Ends s := by
  have hspace : ∀ {space : List Char}, IsSpace space → ∀ rest, Ends rest →
      Ends (space ++ rest) := by
    intro space hspace rest hrest
    cases space with
    | nil => exact hrest
    | cons c space =>
        refine Ends.cons ?_ _
        rcases hspace c (List.mem_cons_self ..) with rfl | rfl | rfl | rfl <;> decide
  cases h with
  | nil h =>
      rw [← List.append_nil s]
      exact hspace h [] fun _ hc => nomatch hc
  | @cons t ts space l rest h ht hts =>
      refine hspace h _ ?_
      have hmark : t.IsMark := hmark t rfl
      cases ht with
      | openBrace => exact Ends.cons (by decide) _
      | closeBrace => exact Ends.cons (by decide) _
      | openBracket => exact Ends.cons (by decide) _
      | closeBracket => exact Ends.cons (by decide) _
      | colon => exact Ends.cons (by decide) _
      | comma => exact Ends.cons (by decide) _
      | null | true | false | number | text | halves => exact hmark.elim

/-- **The scanner finds the tokens that are written**, if a mark stands between any two others. -/
theorem scan_of_spellsTokens {ts : List Token} {s : List Char} (h : SpellsTokens ts s)
    (hparted : Parted ts) : scan s = some ts := by
  rw [scan_eq_scanFrom]
  induction h with
  | nil hspace =>
      have hread := scanFrom_space hspace []
      rw [List.append_nil] at hread
      rw [hread]
      rfl
  | @cons t ts space l rest hspace ht hrest ih =>
      have hends : t.IsMark ∨ Ends rest := by
        by_cases hmark : t.IsMark
        · exact .inl hmark
        · exact .inr (ends_of_spellsTokens hrest fun u hu =>
            ((List.isChain_cons.1 hparted).1 u hu).resolve_left hmark)
      rw [scanFrom_space hspace, scanFrom_token ht hends, ih (List.isChain_cons.1 hparted).2]
      rfl

end Json

end Conform

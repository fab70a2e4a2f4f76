/-
**What is written is read back: layouts and the scanner.**

A layout is written as one text, and the scanner cuts a text into tokens.  When a word, a quoted
name or a literal is always followed by a gap, by a mark or by the end of the text, the scanner
finds exactly the tokens of the layout, whatever characters the names and literals are made of.

Main definitions:

* `Sql.Breaks` — the characters at which a token ends;
* `Sql.IsWord` — the texts that are one word;
* `Sql.Piece.IsReadable`, `Sql.Piece.Parts` — the pieces that can be read, and those that part two
  tokens;
* `Sql.Spaced` — **the layouts in which tokens do not run together**.

Main results:

* `Sql.scanFrom_chars` — a spaced layout is read as its tokens, whatever text follows a break;
* `Sql.scan_write` — **the text of a spaced layout scans to the tokens of the layout**.
-/

import Conform.Sql.Token
import Mathlib.Data.List.Chain

set_option relaxedAutoImplicit false
set_option autoImplicit false

namespace Conform

namespace Sql

/-! ### Where tokens end -/

/-- **The characters at which every token ends**: they continue no word, and they double no
quote. -/
def Breaks (d : Dialect) (c : Char) : Prop :=
  isWordChar c = false ∧ c ≠ nameQuote d ∧ c ≠ literalQuote

instance (d : Dialect) (c : Char) : Decidable (Breaks d c) :=
  inferInstanceAs (Decidable (_ ∧ _))

theorem breaks_of_isGap {d : Dialect} {c : Char} (h : isGap c = true) : Breaks d c := by
  simp only [isGap, Bool.or_eq_true, beq_iff_eq] at h
  rcases h with (((rfl | rfl) | rfl) | rfl) | rfl <;> cases d <;> decide

/-- The scanner is not inside quotes. -/
def Reading.Rests : Reading → Prop
  | .between | .word _ | .nameQuote _ | .literalQuote _ => True
  | .name _ | .literal _ | .escape _ => False

/-- The token that is complete unless the next character continues it. -/
def Reading.held : Reading → List Token
  | .word read => [Token.ofRead .word read]
  | .nameQuote read => [Token.ofRead .name read]
  | .literalQuote read => [Token.ofRead .literal read]
  | .between | .name _ | .literal _ | .escape _ => []

theorem finish_of_rests {q : Reading} (h : q.Rests) : finish q = some q.held := by
  cases q <;> first | rfl | exact h.elim

/-- A break completes the token that is being read, and then counts as if it stood alone. -/
theorem step_of_breaks {d : Dialect} {q : Reading} {c : Char} (hq : q.Rests) (hc : Breaks d c) :
    step d q c = ((start d c).1, q.held ++ (start d c).2) := by
  obtain ⟨hword, hname, hliteral⟩ := hc
  cases q with
  | between => rfl
  | word read => simp [step, hword, Reading.held]
  | nameQuote read => simp [step, hname, Reading.held]
  | literalQuote read => simp [step, hliteral, Reading.held]
  | name _ => exact hq.elim
  | literal _ => exact hq.elim
  | escape _ => exact hq.elim

/-- At a break or at the end of the text, reading goes on as between two tokens. -/
theorem scanFrom_of_rests {d : Dialect} {q : Reading} {s : List Char} (hq : q.Rests)
    (hs : ∀ c ∈ s.head?, Breaks d c) :
    scanFrom d q s = (scanFrom d .between s).map (q.held ++ ·) := by
  cases s with
  | nil =>
      have hend : finish .between = some [] := rfl
      simp [scanFrom, finish_of_rests hq, hend]
  | cons c s =>
      have hbetween : step d .between c = start d c := rfl
      have hstep := step_of_breaks hq (hs c rfl)
      simp [scanFrom, hstep, hbetween, Function.comp_def]

/-! ### One token -/

/-- A character that completes nothing is taken up. -/
theorem scanFrom_cons_of_step {d : Dialect} {q q' : Reading} {c : Char} (s : List Char)
    (h : step d q c = (q', [])) : scanFrom d q (c :: s) = scanFrom d q' s := by
  simp [scanFrom, h]

theorem scanFrom_word {d : Dialect} (w read s : List Char) (h : ∀ c ∈ w, isWordChar c = true) :
    scanFrom d (.word read) (w ++ s) = scanFrom d (.word (w.reverse ++ read)) s := by
  induction w generalizing read with
  | nil => rfl
  | cons c w ih =>
      have hc : step d (.word read) c = (.word (c :: read), []) := by
        simp [step, h c (List.mem_cons_self ..)]
      rw [List.cons_append, scanFrom_cons_of_step _ hc,
        ih (c :: read) fun c hm => h c (List.mem_cons_of_mem _ hm)]
      simp

/-- Inside a name, quotes come in pairs until the closing one. -/
theorem scanFrom_name {d : Dialect} (x read s : List Char) :
    scanFrom d (.name read) (Text.double (nameQuote d) x ++ nameQuote d :: s) =
      scanFrom d (.nameQuote (x.reverse ++ read)) s := by
  have hclose (read : List Char) : step d (.name read) (nameQuote d) = (.nameQuote read, []) := by
    simp [step]
  induction x generalizing read with
  | nil => exact scanFrom_cons_of_step s (hclose read)
  | cons c x ih =>
      by_cases hc : c = nameQuote d
      · subst hc
        have hpair : step d (.nameQuote read) (nameQuote d) =
            (.name (nameQuote d :: read), []) := by simp [step]
        simp only [Text.double_cons, if_true, List.cons_append, List.nil_append]
        rw [scanFrom_cons_of_step _ (hclose read), scanFrom_cons_of_step _ hpair, ih]
        simp
      · have hstep : step d (.name read) c = (.name (c :: read), []) := by simp [step, hc]
        simp only [Text.double_cons, if_neg hc, List.cons_append, List.nil_append]
        rw [scanFrom_cons_of_step _ hstep, ih]
        simp

/-- Inside a literal, a character that is written once is taken up as it is. -/
theorem step_literal_plain {d : Dialect} {c : Char} (read : List Char) (hquote : c ≠ literalQuote)
    (hescape : escapes d = false ∨ c ≠ '\\') :
    step d (.literal read) c = (.literal (c :: read), []) := by
  rcases hescape with h | h <;> simp [step, hquote, h]

/-- The text of one character inside a literal is read as that character. -/
theorem scanFrom_escapeLiteral_singleton {d : Dialect} (c : Char) (read s : List Char) :
    scanFrom d (.literal read) (escapeLiteral d [c] ++ s) =
      scanFrom d (.literal (c :: read)) s := by
  have hopen : step d (.literal read) literalQuote = (.literalQuote read, []) := by simp [step]
  have hpair : step d (.literalQuote read) literalQuote =
      (.literal (literalQuote :: read), []) := by simp [step]
  by_cases hquote : c = literalQuote
  · have hwritten : escapeLiteral d [c] = [literalQuote, literalQuote] := by
      subst hquote; cases d <;> rfl
    rw [hwritten, hquote]
    exact (scanFrom_cons_of_step _ hopen).trans (scanFrom_cons_of_step _ hpair)
  by_cases hescape : escapes d = true ∧ c = '\\'
  · -- only MySQL escapes: the backslash is written twice, and the first one escapes the second
    obtain ⟨hd, rfl⟩ := hescape
    have hwritten : escapeLiteral d ['\\'] = ['\\', '\\'] := by
      cases d <;> first | rfl | simp [escapes] at hd
    have hback : step d (.literal read) '\\' = (.escape read, []) := by
      simp [step, hd, hquote]
    rw [hwritten]
    exact (scanFrom_cons_of_step _ hback).trans (scanFrom_cons_of_step _ rfl)
  · have hplain : escapes d = false ∨ c ≠ '\\' := by
      by_cases hd : escapes d = true
      · exact .inr fun hc => hescape ⟨hd, hc⟩
      · exact .inl (by simpa using hd)
    have hwritten : escapeLiteral d [c] = [c] := by
      cases d <;> simp_all [escapeLiteral, escapes]
    rw [hwritten]
    exact scanFrom_cons_of_step s (step_literal_plain read hquote hplain)

theorem escapeLiteral_cons (d : Dialect) (c : Char) (x : List Char) :
    escapeLiteral d (c :: x) = escapeLiteral d [c] ++ escapeLiteral d x := by
  cases d <;> simp [escapeLiteral, Text.double, List.flatMap_append]

/-- Inside a literal, what stands for the text is read up to the closing quote. -/
theorem scanFrom_literal {d : Dialect} (x read s : List Char) :
    scanFrom d (.literal read) (escapeLiteral d x ++ literalQuote :: s) =
      scanFrom d (.literalQuote (x.reverse ++ read)) s := by
  induction x generalizing read with
  | nil =>
      have hnil : escapeLiteral d [] = [] := by cases d <;> rfl
      rw [hnil, List.nil_append]
      exact scanFrom_cons_of_step s (by simp [step])
  | cons c x ih =>
      rw [escapeLiteral_cons, List.append_assoc, scanFrom_escapeLiteral_singleton, ih]
      simp

/-! ### Pieces and layouts -/

/-- The texts that are one word. -/
def IsWord (w : String) : Prop := w.toList ≠ [] ∧ w.toList.all isWordChar = true

instance (w : String) : Decidable (IsWord w) := inferInstanceAs (Decidable (_ ∧ _))

/-- **The pieces that can be read**: words of word characters, marks that are no other token, gaps
of gap characters, and any quoted text.  Text that is written verbatim may be anything. -/
def Piece.IsReadable (d : Dialect) : Piece → Prop
  | .token (.word w) => IsWord w
  | .token (.mark c) => isGap c = false ∧ Breaks d c
  | .token (.name _) | .token (.literal _) => True
  | .gap blanks => blanks.toList.all isGap = true
  | .verbatim _ => False

/-- Whether a piece parts two tokens. -/
def Piece.Parts : Piece → Prop
  | .token (.mark _) => True
  | .gap blanks => blanks ≠ ""
  | .token (.word _) | .token (.name _) | .token (.literal _) | .verbatim _ => False

/-- **The layouts in which tokens do not run together.** -/
structure Spaced (d : Dialect) (l : Layout) : Prop where
  readable : ∀ p ∈ l, p.IsReadable d
  parted : l.IsChain fun p q => p.Parts ∨ q.Parts

theorem breaks_of_parts {d : Dialect} {p : Piece} (hp : p.IsReadable d) (h : p.Parts)
    {s : List Char} : ∀ c ∈ (p.write d ++ s).head?, Breaks d c := by
  intro c hc
  cases p with
  | token t =>
      cases t with
      | mark m =>
          obtain rfl : m = c := by simpa [Piece.write, Token.write] using hc
          exact hp.2
      | word _ => exact h.elim
      | name _ => exact h.elim
      | literal _ => exact h.elim
  | gap blanks =>
      have hne : blanks.toList ≠ [] := by simpa [Piece.Parts] using h
      obtain ⟨b, bs, hb⟩ := List.exists_cons_of_ne_nil hne
      obtain rfl : b = c := by simpa [Piece.write, hb] using hc
      exact breaks_of_isGap (List.all_eq_true.1 hp b (by simp [hb]))
  | verbatim _ => exact h.elim

/-- What ends in a piece that parts tokens can be followed by anything. -/
theorem Spaced.append_of_closed {d : Dialect} {l m : Layout} (hl : Spaced d l) (hm : Spaced d m)
    (h : ∀ p ∈ l.getLast?, p.Parts) : Spaced d (l ++ m) where
  readable p hp := (List.mem_append.1 hp).elim (hl.readable p) (hm.readable p)
  parted := List.isChain_append.2 ⟨hl.parted, hm.parted, fun p hp _ _ => .inl (h p hp)⟩

/-- What begins with a piece that parts tokens can follow anything. -/
theorem Spaced.append_of_led {d : Dialect} {l m : Layout} (hl : Spaced d l) (hm : Spaced d m)
    (h : ∀ p ∈ m.head?, p.Parts) : Spaced d (l ++ m) where
  readable p hp := (List.mem_append.1 hp).elim (hl.readable p) (hm.readable p)
  parted := List.isChain_append.2 ⟨hl.parted, hm.parted, fun _ _ q hq => .inr (h q hq)⟩

theorem Spaced.nil (d : Dialect) : Spaced d [] := ⟨by simp, by simp⟩

theorem Spaced.singleton {d : Dialect} {p : Piece} (h : p.IsReadable d) : Spaced d [p] :=
  ⟨by simpa using h, by simp⟩

theorem scanFrom_gap {d : Dialect} (g s : List Char) (h : ∀ c ∈ g, isGap c = true) :
    scanFrom d .between (g ++ s) = scanFrom d .between s := by
  induction g with
  | nil => rfl
  | cons c g ih =>
      have hc : step d .between c = (.between, []) := by
        simp [step, start, h c (List.mem_cons_self ..)]
      rw [List.cons_append, scanFrom_cons_of_step _ hc]
      exact ih fun c hm => h c (List.mem_cons_of_mem _ hm)

theorem start_wordChar {d : Dialect} {c : Char} (h : isWordChar c = true) :
    start d c = (.word [c], []) := by
  have hgap : isGap c = false := by
    by_contra hne
    have hbreak := breaks_of_isGap (d := d) (by simpa using hne)
    simp [hbreak.1] at h
  simp [start, hgap, h]

theorem start_nameQuote (d : Dialect) : start d (nameQuote d) = (.name [], []) := by
  cases d <;> decide

theorem start_literalQuote (d : Dialect) : start d literalQuote = (.literal [], []) := by
  cases d <;> decide

theorem start_mark {d : Dialect} {c : Char} (hgap : isGap c = false) (h : Breaks d c) :
    start d c = (.between, [.mark c]) := by
  simp [start, hgap, h.1, h.2.1, h.2.2]

/-- A piece is read as its token if what follows does not continue it. -/
theorem scanFrom_piece {d : Dialect} {p : Piece} {s : List Char} (hp : p.IsReadable d)
    (hs : p.Parts ∨ ∀ c ∈ s.head?, Breaks d c) :
    scanFrom d .between (p.write d ++ s) = (scanFrom d .between s).map (tokens [p] ++ ·) := by
  cases p with
  | token t =>
      cases t with
      | word w =>
          have hs : ∀ c ∈ s.head?, Breaks d c := hs.resolve_left id
          obtain ⟨c, cs, hw⟩ := List.exists_cons_of_ne_nil hp.1
          have hc : step d .between c = (.word [c], []) :=
            start_wordChar (List.all_eq_true.1 hp.2 c (by simp [hw]))
          have hcs : ∀ x ∈ cs, isWordChar x = true :=
            fun x hx => List.all_eq_true.1 hp.2 x (by simp [hw, hx])
          have hword : Token.ofRead .word (cs.reverse ++ [c]) = .word w := by
            simp [Token.ofRead, ← hw]
          simp only [Piece.write, Token.write, hw, List.cons_append]
          rw [scanFrom_cons_of_step _ hc, scanFrom_word _ _ _ hcs,
            scanFrom_of_rests (q := .word _) trivial hs]
          simp [Reading.held, tokens, hword]
      | mark c =>
          simp only [Piece.write, Token.write, List.cons_append, List.nil_append, scanFrom, step,
            start_mark hp.1 hp.2]
          rfl
      | name x =>
          have hs : ∀ c ∈ s.head?, Breaks d c := hs.resolve_left id
          have hopen : step d .between (nameQuote d) = (.name [], []) := start_nameQuote d
          simp only [Piece.write, Token.write, quoteName, List.cons_append, List.append_assoc,
            List.nil_append]
          rw [scanFrom_cons_of_step _ hopen, scanFrom_name,
            scanFrom_of_rests (q := .nameQuote _) trivial hs]
          simp [Reading.held, tokens, Token.ofRead]
      | literal x =>
          have hs : ∀ c ∈ s.head?, Breaks d c := hs.resolve_left id
          have hopen : step d .between literalQuote = (.literal [], []) := start_literalQuote d
          simp only [Piece.write, Token.write, quoteLiteral, List.cons_append, List.append_assoc,
            List.nil_append]
          rw [scanFrom_cons_of_step _ hopen, scanFrom_literal,
            scanFrom_of_rests (q := .literalQuote _) trivial hs]
          simp [Reading.held, tokens, Token.ofRead]
  | gap blanks =>
      rw [Piece.write, scanFrom_gap _ _ (List.all_eq_true.1 hp)]
      simp [tokens]
  | verbatim _ => exact hp.elim

theorem tokens_cons (p : Piece) (l : Layout) : tokens (p :: l) = tokens [p] ++ tokens l := by
  cases p <;> simp [tokens]

/-- **A spaced layout is read as its tokens**, whatever follows it after a break. -/
theorem scanFrom_chars {d : Dialect} {l : Layout} (h : Spaced d l) {s : List Char}
    (hs : ∀ c ∈ s.head?, Breaks d c) :
    scanFrom d .between (chars d l ++ s) = (scanFrom d .between s).map (tokens l ++ ·) := by
  induction l with
  | nil => simp [tokens]
  | cons p l ih =>
      have hp : p.IsReadable d := h.readable p (List.mem_cons_self ..)
      have hl : Spaced d l :=
        ⟨fun q hq => h.readable q (List.mem_cons_of_mem _ hq), h.parted.of_cons⟩
      -- either the piece parts tokens itself, or what follows it begins with a break
      have hnext : p.Parts ∨ ∀ c ∈ (chars d l ++ s).head?, Breaks d c := by
        cases l with
        | nil => exact .inr hs
        | cons q l =>
            rcases h.parted.rel with hparts | hparts
            · exact .inl hparts
            · rw [chars_cons, List.append_assoc]
              exact .inr (breaks_of_parts (h.readable q (by simp)) hparts)
      rw [chars_cons, List.append_assoc, scanFrom_piece hp hnext, ih hl, tokens_cons p l]
      simp [Function.comp_def]

/-- **The text of a spaced layout scans to the tokens of the layout.** -/
theorem scan_write {d : Dialect} {l : Layout} (h : Spaced d l) :
    scan d (write d l) = some (tokens l) := by
  have hread := scanFrom_chars h (s := []) (by simp)
  rw [List.append_nil] at hread
  rw [scan, toList_write, hread]
  simp [scanFrom, finish]

end Sql

end Conform

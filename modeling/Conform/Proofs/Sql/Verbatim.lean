/-
**Every statement is read as its tokens.**

A MySQL configuration supplies two texts for new tables that are written as they are.  If they close
their own quotes they are read as the tokens that they hold, and what stands around them is read as
if they were not there.  So the text of every statement, in every dialect, is read as the tokens
that it was written with.

Main definitions:

* `Sql.readTokens` — the tokens of a layout, those of its verbatim texts included;
* `Sql.ReadsBefore` — that a layout is read as its tokens in front of a text;
* `Engine.Closes` — that the texts of a configuration close their quotes.

Main results:

* `Sql.scanFrom_append` — a text that closes its quotes is read in the same way before a break;
* `scan_createTable` — so is the text of a new table under MySQL;
* `scan_statement` — **every statement is read as its tokens**.
-/

import Conform.Proofs.Sql.Spacing

set_option relaxedAutoImplicit false
set_option autoImplicit false

namespace Conform

namespace Sql

variable {d : Dialect}

/-! ### Verbatim texts -/

/-- The tokens of a piece; those of a verbatim text are the tokens that it is read as. -/
def Piece.read (d : Dialect) : Piece → List Token
  | token t => [t]
  | gap _ => []
  | verbatim text => (scan d text).getD []

/-- **The tokens of a layout**, those of its verbatim texts included. -/
def readTokens (d : Dialect) (l : Layout) : List Token := l.flatMap (Piece.read d)

theorem readTokens_cons (p : Piece) (l : Layout) :
    readTokens d (p :: l) = p.read d ++ readTokens d l := rfl

@[simp] theorem readTokens_append (l m : Layout) :
    readTokens d (l ++ m) = readTokens d l ++ readTokens d m := List.flatMap_append

/-- A spaced layout has no verbatim text. -/
theorem readTokens_of_spaced {l : Layout} (h : Spaced d l) : readTokens d l = tokens l := by
  have hreadable := h.readable
  clear h
  induction l with
  | nil => rfl
  | cons p l ih =>
      rw [readTokens_cons, ih fun q hq => hreadable q (List.mem_cons_of_mem _ hq), tokens_cons p l]
      cases p with
      | token t => rfl
      | gap blanks => rfl
      | verbatim text => exact (hreadable _ (List.mem_cons_self ..)).elim

/-- **A text that closes its quotes is read in the same way** whatever follows it after a break. -/
theorem scanFrom_append {q : Reading} {x s : List Char} {ts : List Token}
    (h : scanFrom d q x = some ts) (hs : ∀ c ∈ s.head?, Breaks d c) :
    scanFrom d q (x ++ s) = (scanFrom d .between s).map (ts ++ ·) := by
  induction x generalizing q ts with
  | nil =>
      -- the text was read to its end, so no quote is open there
      have hrests : q.Rests := by
        cases q with
        | between | word _ | nameQuote _ | literalQuote _ => trivial
        | name _ | literal _ | escape _ => cases h
      obtain rfl : q.held = ts := by
        rw [scanFrom, finish_of_rests hrests] at h
        exact Option.some.inj h
      exact scanFrom_of_rests hrests hs
  | cons c x ih =>
      simp only [scanFrom, Option.map_eq_some_iff] at h
      obtain ⟨rest, hrest, rfl⟩ := h
      simp only [List.cons_append, scanFrom, ih hrest, Option.map_map]
      congr 1
      funext us
      exact (List.append_assoc ..).symm

/-- **That a layout is read as its tokens** in front of a text, which is then read on its own. -/
def ReadsBefore (d : Dialect) (l : Layout) (s : List Char) : Prop :=
  scanFrom d .between (chars d l ++ s) = (scanFrom d .between s).map (readTokens d l ++ ·)

theorem ReadsBefore.append {l m : Layout} {s : List Char} (hl : ReadsBefore d l (chars d m ++ s))
    (hm : ReadsBefore d m s) : ReadsBefore d (l ++ m) s := by
  unfold ReadsBefore at *
  rw [chars_append, List.append_assoc, hl, hm, Option.map_map]
  congr 1
  funext ts
  simp

/-- A spaced layout is read before a break. -/
theorem Spaced.readsBefore {l : Layout} (h : Spaced d l) {s : List Char}
    (hs : ∀ c ∈ s.head?, Breaks d c) : ReadsBefore d l s := by
  rw [ReadsBefore, readTokens_of_spaced h]
  exact scanFrom_chars h hs

/-- A spaced layout that ends in a mark is read before anything. -/
theorem Spaced.readsBefore_of_mark {l : Layout} {c : Char} (h : Spaced d (l ++ [mark c]))
    (s : List Char) : ReadsBefore d (l ++ [mark c]) s := by
  have hmark : (mark c).IsReadable d := h.readable _ (by simp)
  have hl : Spaced d l :=
    ⟨fun q hq => h.readable q (List.mem_append_left _ hq), (List.isChain_append.1 h.parted).1⟩
  refine (hl.readsBefore ?_).append ?_
  · rw [chars_cons, chars_nil, List.append_nil]
    exact breaks_of_parts hmark trivial
  · have hread := scanFrom_piece hmark (s := s) (.inl trivial)
    simpa [ReadsBefore, readTokens, Piece.read, tokens, mark] using hread

/-- A verbatim text that closes its quotes is read before a break. -/
theorem readsBefore_verbatim {text : String} (h : (scan d text).isSome = true) {s : List Char}
    (hs : ∀ c ∈ s.head?, Breaks d c) : ReadsBefore d [.verbatim text] s := by
  obtain ⟨ts, hts⟩ := Option.isSome_iff_exists.1 h
  have hread := scanFrom_append hts hs
  simpa [ReadsBefore, Piece.write, readTokens, Piece.read, hts] using hread

/-- A layout that is read before the end of the text scans to its tokens. -/
theorem ReadsBefore.scan_write {l : Layout} (h : ReadsBefore d l []) :
    scan d (write d l) = some (readTokens d l) := by
  rw [ReadsBefore, List.append_nil] at h
  rw [scan, toList_write, h]
  simp [scanFrom, finish]

end Sql

open Sql

variable {d : Dialect} {e : Engine}

/-! ### Statements -/

/-- **That the texts of a configuration close their quotes.** -/
def Engine.Closes (e : Engine) : Prop :=
  (scan .mysql e.engine).isSome = true ∧ (scan .mysql e.charset).isSome = true

instance (e : Engine) : Decidable e.Closes := inferInstanceAs (Decidable (_ ∧ _))

theorem breaks_space_cons (l : Layout) : ∀ c ∈ (chars d (space :: l)).head?, Breaks d c :=
  breaks_of_parts isReadable_space parts_space

theorem spaced_assignment {w : String} {l : Layout} (hl : Spaced d l)
    (hw : IsWord w := by decide) : Spaced d (space :: word w :: mark '=' :: l) := by
  have hmark : Spaced d (mark '=' :: l) := hl.cons (isReadable_mark (by simp)) (.inl trivial)
  exact (hmark.cons (p := word w) hw (.inr (by simp [mark, Piece.Parts]))).space_cons

/-- **The text of a new table under MySQL is read as its tokens**, where the configuration closes
its quotes. -/
theorem scan_createTable (he : e.Closes) (table : String) (columns : List Column)
    (comment : Option String) :
    scan .mysql ((Statement.createTable table columns comment).write .mysql e) =
      some (readTokens .mysql ((Statement.createTable table columns comment).layout .mysql e)) := by
  let body : Layout := words ["CREATE", "TABLE"] ++ [name table, space, mark '(', .gap "\n"] ++
    [mark ',', .gap "\n"].intercalate
      ((Statement.columnLayouts .mysql columns).map fun l => .gap "  " :: l) ++
    [.gap "\n", mark ')']
  let label : Layout :=
    comment.elim [] fun text => [space, word "COMMENT", mark '=', literal text]
  have hlead : Spaced .mysql (body ++ [space, word "ENGINE"] ++ [mark '=']) := by
    have hengine : Spaced .mysql [space, word "ENGINE", mark '='] := spaced_assignment (.nil _)
    have hall := (spaced_newTable table columns).append_of_led hengine (by simpa using parts_space)
    simpa [body] using hall
  have hmiddle : Spaced .mysql ([space, word "DEFAULT", space, word "CHARSET"] ++ [mark '=']) := by
    have hcharset : Spaced .mysql [space, word "CHARSET", mark '='] := spaced_assignment (.nil _)
    have hdefault : IsWord "DEFAULT" := by decide
    exact (hcharset.cons (p := word "DEFAULT") hdefault
      (.inr (by simpa using parts_space))).space_cons
  have hlabel : Spaced .mysql label ∧ ∀ c ∈ (chars .mysql label).head?, Breaks .mysql c := by
    cases comment with
    | none => exact ⟨.nil _, by simp [label]⟩
    | some text =>
        exact ⟨spaced_assignment (spaced_literal text), breaks_space_cons _⟩
  have hlayout : (Statement.createTable table columns comment).layout .mysql e =
      (body ++ [space, word "ENGINE"] ++ [mark '=']) ++ ([.verbatim e.engine] ++
        (([space, word "DEFAULT", space, word "CHARSET"] ++ [mark '=']) ++
          ([.verbatim e.charset] ++ label))) := by
    cases comment <;> simp [Statement.layout, Statement.tableOptions, body, label]
  rw [Statement.write, hlayout]
  -- the texts of the configuration stand between an equals sign and a space
  refine ReadsBefore.scan_write (.append (hlead.readsBefore_of_mark _) (.append
    (readsBefore_verbatim he.1 ?_) (.append (hmiddle.readsBefore_of_mark _) (.append
      (readsBefore_verbatim he.2 ?_) (hlabel.1.readsBefore (by simp))))))
  · rw [List.append_nil]
    exact breaks_space_cons _
  · rw [List.append_nil]
    exact hlabel.2

/-- **Every statement is read as its tokens.** -/
theorem scan_statement (he : d = .mysql → e.Closes) (st : Statement) :
    scan d (st.write d e) = some (readTokens d (st.layout d e)) := by
  -- only a new table under MySQL has the texts of the configuration
  by_cases h : d ≠ .mysql ∨ ∀ table columns comment, st ≠ .createTable table columns comment
  · have hspaced := spaced_statement (e := e) h
    rw [readTokens_of_spaced hspaced]
    exact scan_write hspaced
  · simp only [not_or, not_not, not_forall] at h
    obtain ⟨rfl, table, columns, comment, rfl⟩ := h
    exact scan_createTable (he rfl) table columns comment

end Conform

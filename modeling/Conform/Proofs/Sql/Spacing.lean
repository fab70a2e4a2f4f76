/-
**The statements keep their tokens apart.**

Every clause and every statement is laid out so that its tokens do not run together, so its text
scans to its tokens.  The one exception is the text that a MySQL configuration supplies at the end
of a new table, which is written as it is.

Main results:

* `Sql.spaced_column`, `Sql.spaced_clause` — the layouts of columns and of clauses are spaced;
* `Sql.spaced_statement` — **so are those of statements**, but for new tables under MySQL.
-/

import Conform.Proofs.Sql.Scanning
import Conform.Sql.Statement

set_option relaxedAutoImplicit false
set_option autoImplicit false

namespace Conform

namespace Sql

variable {d : Dialect}

/-! ### Words and numbers -/

theorem isWord_toString (n : Nat) : IsWord (toString n) := by
  have hdigits : (toString n).toList = Nat.toDigits 10 n := Nat.toList_repr
  rw [IsWord, hdigits]
  refine ⟨Nat.toDigits_ne_nil, List.all_eq_true.2 fun c hc => ?_⟩
  have hdigit : c.isDigit = true := Nat.isDigit_of_mem_toDigits (by decide) (by decide) hc
  simp [isWordChar, Char.isAlphanum, hdigit]

theorem isWord_keyword (s : Storage) : IsWord s.keyword := by
  cases s <;> decide

theorem parts_space : space.Parts := by
  change " " ≠ ""
  decide

theorem isReadable_space : space.IsReadable d := by
  change " ".toList.all isGap = true
  decide

/-- The marks that statements are written with. -/
theorem isReadable_mark {c : Char} (h : c ∈ ['(', ')', ',', '.', '-', '=']) :
    (mark c).IsReadable d := by
  simp only [List.mem_cons, List.not_mem_nil, or_false] at h
  change isGap c = false ∧ Breaks d c
  rcases h with rfl | rfl | rfl | rfl | rfl | rfl <;> cases d <;> decide

theorem spaced_word {w : String} (h : IsWord w) : Spaced d [word w] := .singleton h

theorem spaced_name (s : String) : Spaced d [name s] := .singleton (p := name s) trivial

theorem spaced_literal (s : String) : Spaced d [literal s] := .singleton (p := literal s) trivial

/-- One more piece in front of a spaced layout, where one of the two neighbours parts tokens. -/
theorem Spaced.cons {p : Piece} {l : Layout} (hp : p.IsReadable d) (hl : Spaced d l)
    (h : p.Parts ∨ ∀ q ∈ l.head?, q.Parts) : Spaced d (p :: l) := by
  rcases h with h | h
  · exact (Spaced.singleton hp).append_of_closed hl (by simpa using h)
  · exact (Spaced.singleton hp).append_of_led hl h

theorem Spaced.space_cons {l : Layout} (hl : Spaced d l) : Spaced d (space :: l) :=
  hl.cons isReadable_space (.inl parts_space)

theorem Spaced.name_space_cons {l : Layout} (s : String) (hl : Spaced d l) :
    Spaced d (name s :: space :: l) :=
  hl.space_cons.cons trivial (.inr (by simpa using parts_space))

/-- Words with a space after each of them, in front of a spaced layout. -/
theorem Spaced.words_append {l : Layout} (hl : Spaced d l) (ws : List String)
    (h : ∀ w ∈ ws, IsWord w := by decide) : Spaced d (words ws ++ l) := by
  induction ws with
  | nil => exact hl
  | cons w ws ih =>
      have hrest := ih fun v hv => h v (List.mem_cons_of_mem _ hv)
      exact hrest.space_cons.cons (h w (List.mem_cons_self ..)) (.inr (by simpa using parts_space))

theorem spaced_lastWords {ws : List String} (h : ∀ w ∈ ws, IsWord w) : Spaced d (lastWords ws) := by
  induction ws with
  | nil => exact .nil d
  | cons w ws ih =>
      have hw : Piece.IsReadable d (word w) := h w (List.mem_cons_self ..)
      cases ws with
      | nil => exact .singleton hw
      | cons v ws =>
          have hrest := ih fun u hu => h u (List.mem_cons_of_mem _ hu)
          exact hrest.space_cons.cons hw (.inr (by simpa using parts_space))

/-! ### Columns -/

theorem spaced_integerLayout (n : Int) : Spaced d (integerLayout n) := by
  cases n with
  | ofNat n => exact spaced_word (isWord_toString n)
  | negSucc n =>
      exact (spaced_word (isWord_toString (n + 1))).cons (isReadable_mark (by simp))
        (.inl trivial)

theorem spaced_type (t : ColumnType) : Spaced d t.layout := by
  obtain ⟨storage, length⟩ := t
  cases length with
  | none => exact .singleton (isWord_keyword storage)
  | some n =>
      have hclose : Spaced d [mark ')'] := .singleton (isReadable_mark (by simp))
      have hnumber : Spaced d [word (toString n), mark ')'] :=
        hclose.cons (isWord_toString n) (.inr (by simp [mark, Piece.Parts]))
      have hopen : Spaced d [mark '(', word (toString n), mark ')'] :=
        hnumber.cons (isReadable_mark (by simp)) (.inl trivial)
      exact hopen.cons (isWord_keyword storage) (.inr (by simp [mark, Piece.Parts]))

theorem spaced_value {c : Default} {value : Layout} (h : c.layout? = some value) :
    Spaced d value := by
  cases c with
  | absent => simp [Default.layout?] at h
  | number n =>
      obtain rfl := Option.some.inj h
      exact spaced_integerLayout n.toInt
  | text s =>
      obtain rfl := Option.some.inj h
      exact .singleton trivial

theorem spaced_defaultLayout (c : Column) :
    Spaced d c.defaultLayout ∧ ∀ p ∈ c.defaultLayout.head?, p.Parts := by
  unfold Column.defaultLayout
  cases h : c.default.layout? with
  | none => exact ⟨.nil d, by simp⟩
  | some value =>
      have hvalue : Spaced d (words ["DEFAULT"] ++ value) :=
        (spaced_value h).words_append ["DEFAULT"]
      exact ⟨hvalue.space_cons, by simpa using parts_space⟩

theorem spaced_commentLayout (c : Column) :
    Spaced d (c.commentLayout d) ∧ ∀ p ∈ (c.commentLayout d).head?, p.Parts := by
  have hcomment : Spaced d (words ["COMMENT"] ++ [literal c.label]) :=
    (spaced_literal c.label).words_append ["COMMENT"]
  cases d with
  | mysql =>
      by_cases hlabel : c.label = ""
      · simpa [Column.commentLayout, hlabel] using Spaced.nil .mysql
      · simp only [Column.commentLayout, if_neg hlabel]
        exact ⟨hcomment.space_cons, by simpa using parts_space⟩
  | postgres => exact ⟨.nil .postgres, by simp [Column.commentLayout]⟩
  | sqlite => exact ⟨.nil .sqlite, by simp [Column.commentLayout]⟩

/-- **The layout of a column is spaced.** -/
theorem spaced_column (c : Column) : Spaced d (c.layout d) := by
  obtain ⟨hdefault, hdefaultHead⟩ := spaced_defaultLayout (d := d) c
  obtain ⟨hcomment, hcommentHead⟩ := spaced_commentLayout (d := d) c
  have hspecification : Spaced d (c.specification d) :=
    ((spaced_type c.type).append_of_led hdefault hdefaultHead).append_of_led hcomment hcommentHead
  exact hspecification.name_space_cons c.key

theorem spaced_systemColumn (c : SystemColumn) : Spaced d (c.layout d) := by
  have hkeywords : ∀ w ∈ c.keywords d, IsWord w := by
    cases d <;> cases c <;> decide
  have hwords : Spaced d (lastWords (c.keywords d)) := spaced_lastWords hkeywords
  have hcomment : Spaced d (words ["COMMENT"] ++ [literal c.label]) :=
    (spaced_literal c.label).words_append ["COMMENT"]
  have hall := hwords.name_space_cons c.key
  cases d with
  | mysql => exact hall.append_of_led hcomment.space_cons (by simpa using parts_space)
  | postgres => exact hall.append_of_led (.nil _) (by simp)
  | sqlite => exact hall.append_of_led (.nil _) (by simp)

/-! ### Clauses and statements -/

/-- **The layout of a clause is spaced.** -/
theorem spaced_clause (k : Clause) : Spaced d (k.layout d) := by
  cases k with
  | addColumn c => exact (spaced_column c).words_append ["ADD", "COLUMN"]
  | modifyColumn c => exact (spaced_column c).words_append ["MODIFY", "COLUMN"]
  | alterType key type =>
      have htype : Spaced d (words ["TYPE"] ++ type.layout) :=
        (spaced_type type).words_append ["TYPE"]
      exact (htype.name_space_cons key).words_append ["ALTER", "COLUMN"]
  | alterDefault key default =>
      cases h : default.layout? with
      | none =>
          have hdrop : Spaced d (lastWords ["DROP", "DEFAULT"]) := spaced_lastWords (by decide)
          simp only [Clause.layout, h]
          exact (hdrop.name_space_cons key).words_append ["ALTER", "COLUMN"]
      | some value =>
          have hset : Spaced d (words ["SET", "DEFAULT"] ++ value) :=
            (spaced_value h).words_append ["SET", "DEFAULT"]
          simp only [Clause.layout, h]
          exact (hset.name_space_cons key).words_append ["ALTER", "COLUMN"]

/-- Spaced layouts between separators that part tokens at both ends. -/
theorem Spaced.intercalate {p q : Piece} {parts : List Layout} (hseparator : Spaced d [p, q])
    (hp : p.Parts) (hq : q.Parts) (h : ∀ l ∈ parts, Spaced d l) :
    Spaced d ([p, q].intercalate parts) := by
  induction parts with
  | nil => exact .nil d
  | cons l parts ih =>
      have hl : Spaced d l := h l (List.mem_cons_self ..)
      cases parts with
      | nil => simpa [List.intercalate] using hl
      | cons m parts =>
          have hrest := ih fun k hk => h k (List.mem_cons_of_mem _ hk)
          have htail := hseparator.append_of_closed hrest (by simpa using hq)
          have hall := hl.append_of_led htail (by simpa using hp)
          simpa [List.intercalate] using hall

theorem Spaced.gap_cons {blanks : String} {l : Layout} (hne : blanks ≠ "")
    (hblanks : blanks.toList.all isGap = true) (hl : Spaced d l) :
    Spaced d (.gap blanks :: l) :=
  hl.cons hblanks (.inl hne)

theorem spaced_columnLayouts (columns : List Column) :
    Spaced d ([mark ',', .gap "\n"].intercalate
      ((Statement.columnLayouts d columns).map fun l => .gap "  " :: l)) := by
  have hgap : Spaced d [.gap "\n"] := (Spaced.nil d).gap_cons (by decide) (by decide)
  refine Spaced.intercalate (hgap.cons (isReadable_mark (by simp)) (.inl trivial)) trivial
    (by simp [Piece.Parts]) fun l hl => ?_
  obtain ⟨m, hm, rfl⟩ := List.mem_map.1 hl
  refine Spaced.gap_cons (by decide) (by decide) ?_
  rcases List.mem_append.1 hm with hm | hm
  · obtain ⟨c, _, rfl⟩ := List.mem_map.1 hm
    exact spaced_systemColumn c
  · obtain ⟨c, _, rfl⟩ := List.mem_map.1 hm
    exact spaced_column c

/-- The layout of a new table is spaced up to what follows its columns. -/
theorem spaced_newTable (table : String) (columns : List Column) :
    Spaced d (words ["CREATE", "TABLE"] ++ [name table, space, mark '(', .gap "\n"] ++
      [mark ',', .gap "\n"].intercalate
        ((Statement.columnLayouts d columns).map fun l => .gap "  " :: l) ++
      [.gap "\n", mark ')']) := by
  have hclose : Spaced d [.gap "\n", mark ')'] :=
    (Spaced.singleton (isReadable_mark (by simp))).gap_cons (by decide) (by decide)
  have hbody := (spaced_columnLayouts columns).append_of_led hclose (by simp [Piece.Parts])
  have hline : Spaced d (.gap "\n" :: _) := hbody.gap_cons (by decide) (by decide)
  have hopen := hline.cons (isReadable_mark (c := '(') (by simp)) (.inl trivial)
  have hall := (hopen.name_space_cons table).words_append ["CREATE", "TABLE"]
  simpa using hall

/-- The layout of a new table is spaced where no text is supplied for it. -/
theorem spaced_createTable (e : Engine) (table : String) (columns : List Column)
    (comment : Option String) (h : d ≠ .mysql) :
    Spaced d ((Statement.createTable table columns comment).layout d e) := by
  have hoptions : Statement.tableOptions d e comment = [] := by
    cases d <;> simp_all [Statement.tableOptions]
  simpa [Statement.layout, hoptions] using spaced_newTable (d := d) table columns

/-- **The layout of a statement is spaced**, but for new tables under MySQL. -/
theorem spaced_statement {e : Engine} {s : Statement}
    (h : d ≠ .mysql ∨ ∀ table columns comment, s ≠ .createTable table columns comment) :
    Spaced d (s.layout d e) := by
  have hclose : Spaced d [mark ')'] := .singleton (isReadable_mark (by simp))
  cases s with
  | createTable table columns comment =>
      exact spaced_createTable e table columns comment (h.resolve_right fun h => h _ _ _ rfl)
  | alterTable table clause =>
      have hclause : Spaced d (clause.layout d) := spaced_clause clause
      have hall := (hclause.name_space_cons table).words_append ["ALTER", "TABLE"]
      simpa [Statement.layout] using hall
  | createIndex index table key =>
      have hkey : Spaced d [mark '(', name key, mark ')'] :=
        (hclose.cons (p := name key) trivial (.inr (by simp [mark, Piece.Parts]))).cons
          (isReadable_mark (by simp)) (.inl trivial)
      have htable := (hkey.name_space_cons table).words_append ["ON"]
      have hall := (htable.name_space_cons index).words_append ["CREATE", "INDEX"]
      simpa [Statement.layout] using hall
  | dropIndex index table =>
      have htable : Spaced d (words ["ON"] ++ [name table]) :=
        (spaced_name table).words_append ["ON"]
      cases d with
      | mysql => exact (htable.name_space_cons index).words_append ["DROP", "INDEX"]
      | postgres => exact (spaced_name index).words_append ["DROP", "INDEX"]
      | sqlite => exact (spaced_name index).words_append ["DROP", "INDEX"]
  | commentTable table text =>
      have htext : Spaced d (words ["IS"] ++ [literal text]) :=
        (spaced_literal text).words_append ["IS"]
      have hall := (htext.name_space_cons table).words_append ["COMMENT", "ON", "TABLE"]
      simpa [Statement.layout] using hall
  | commentColumn table key text =>
      have htext : Spaced d (words ["IS"] ++ [literal text]) :=
        (spaced_literal text).words_append ["IS"]
      have hkey := (htext.name_space_cons key).cons (isReadable_mark (c := '.') (by simp))
        (.inl trivial)
      have htable := hkey.cons (p := name table) trivial (.inr (by simp [mark, Piece.Parts]))
      have hall := htable.words_append ["COMMENT", "ON", "COLUMN"]
      simpa [Statement.layout] using hall

end Sql

end Conform

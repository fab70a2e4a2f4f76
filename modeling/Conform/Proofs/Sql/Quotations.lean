/-
**What is quoted stays in its quotes.**

The text of every statement is read back as the tokens that it was written with, whatever characters
its names and literals are made of.  So the quoted tokens are exactly the strings of the statement,
each of them whole, and the tokens outside the quotes are those of any other statement of the same
shape.

Main definitions:

* `Sql.Token.isQuoted`, `Sql.Token.unquoted` — quoted tokens, and a token without its string;
* `Statement.quotations` — the quoted tokens of a statement, in order;
* `Statement.shape` — **a statement without its strings**;
* `Statement.Quotes` — that nothing gets out of the quotes of a statement.

Main results:

* `quotedTokens_statement` — the quoted tokens of a statement are its names and its literals;
* `alike_statement` — a statement and its shape differ in their quotes only;
* `quotes_statement` — **nothing gets out of the quotes of a statement**.
-/

import Conform.Proofs.Sql.Verbatim

set_option relaxedAutoImplicit false
set_option autoImplicit false

namespace Conform

open Sql

variable {d : Dialect} {e : Engine}

/-! ### Inside the quotes -/

namespace Sql

/-- Whether a token is quoted. -/
def Token.isQuoted : Token → Bool
  | word _ | mark _ => false
  | name _ | literal _ => true

/-- The quoted tokens of a layout, in order. -/
def quotedTokens (d : Dialect) (l : Layout) : List Token := (readTokens d l).filter Token.isQuoted

@[simp] theorem quotedTokens_nil : quotedTokens d [] = [] := rfl

@[simp] theorem quotedTokens_append (l m : Layout) :
    quotedTokens d (l ++ m) = quotedTokens d l ++ quotedTokens d m := by
  simp [quotedTokens]

@[simp] theorem quotedTokens_gap (blanks : String) (l : Layout) :
    quotedTokens d (.gap blanks :: l) = quotedTokens d l := rfl

@[simp] theorem quotedTokens_space (l : Layout) :
    quotedTokens d (space :: l) = quotedTokens d l := rfl

@[simp] theorem quotedTokens_word (w : String) (l : Layout) :
    quotedTokens d (word w :: l) = quotedTokens d l := rfl

@[simp] theorem quotedTokens_mark (c : Char) (l : Layout) :
    quotedTokens d (mark c :: l) = quotedTokens d l := rfl

@[simp] theorem quotedTokens_name (s : String) (l : Layout) :
    quotedTokens d (name s :: l) = .name s :: quotedTokens d l := rfl

@[simp] theorem quotedTokens_literal (s : String) (l : Layout) :
    quotedTokens d (literal s :: l) = .literal s :: quotedTokens d l := rfl

@[simp] theorem quotedTokens_words (ws : List String) : quotedTokens d (words ws) = [] := by
  induction ws with
  | nil => rfl
  | cons w ws ih => exact ih

theorem quotedTokens_intercalate {separator : Layout} (h : quotedTokens d separator = [])
    (ls : List Layout) :
    quotedTokens d (separator.intercalate ls) = ls.flatMap (quotedTokens d) := by
  induction ls with
  | nil => rfl
  | cons l ls ih =>
      cases ls with
      | nil => simp [List.intercalate]
      | cons m ls => simpa [List.intercalate, h] using ih

@[simp] theorem quotedTokens_lastWords (ws : List String) : quotedTokens d (lastWords ws) = [] := by
  rw [lastWords, quotedTokens_intercalate rfl, List.flatMap_eq_nil_iff]
  rintro l hl
  obtain ⟨w, _, rfl⟩ := List.mem_map.1 hl
  rfl

@[simp] theorem quotedTokens_type (t : ColumnType) : quotedTokens d t.layout = [] := by
  unfold ColumnType.layout
  split <;> rfl

@[simp] theorem quotedTokens_integer (n : Int) : quotedTokens d (integerLayout n) = [] := by
  cases n <;> rfl

end Sql

/-- The quoted token of a default: the text that it is, if it is one. -/
def Default.quotations : Default → List Token
  | text s => [.literal s]
  | absent | number _ => []

/-- The quoted token of a label where it is part of the column. -/
def Column.labelQuotations (d : Dialect) (c : Column) : List Token :=
  match d with
  | .mysql => if c.label = "" then [] else [.literal c.label]
  | .postgres | .sqlite => []

/-- The quoted tokens of a column: its name, its default and, under MySQL, its label. -/
def Column.quotations (d : Dialect) (c : Column) : List Token :=
  .name c.key :: (c.default.quotations ++ c.labelQuotations d)

/-- The quoted tokens of a system column. -/
def SystemColumn.quotations (d : Dialect) (c : SystemColumn) : List Token :=
  .name c.key ::
    match d with
    | .mysql => [.literal c.label]
    | .postgres | .sqlite => []

/-- The quoted tokens of a clause. -/
def Clause.quotations (d : Dialect) : Clause → List Token
  | addColumn c | modifyColumn c => c.quotations d
  | alterType key _ => [.name key]
  | alterDefault key default => .name key :: default.quotations

/-- The quoted tokens of what follows the columns of a new table. -/
def Statement.optionQuotations (d : Dialect) (e : Engine) (comment : Option String) : List Token :=
  match d with
  | .mysql =>
      quotedTokens .mysql [.verbatim e.engine] ++ quotedTokens .mysql [.verbatim e.charset] ++
        (comment.map Token.literal).toList
  | .postgres | .sqlite => []

/-- **The quoted tokens of a statement**, in order: its names and its literals. -/
def Statement.quotations (d : Dialect) (e : Engine) : Statement → List Token
  | createTable table columns comment =>
      .name table :: (systemColumns.flatMap (·.quotations d) ++ columns.flatMap (·.quotations d) ++
        optionQuotations d e comment)
  | alterTable table clause => .name table :: clause.quotations d
  | createIndex index table key => [.name index, .name table, .name key]
  | dropIndex index table =>
      .name index ::
        match d with
        | .mysql => [.name table]
        | .postgres | .sqlite => []
  | commentTable table text => [.name table, .literal text]
  | commentColumn table key text => [.name table, .name key, .literal text]

theorem quotedTokens_value {c : Default} {value : Layout} (h : c.layout? = some value) :
    quotedTokens d value = c.quotations := by
  cases c with
  | absent => cases h
  | number n =>
      cases h
      exact quotedTokens_integer _
  | text s =>
      cases h
      rfl

theorem quotations_of_layout? {c : Default} (h : c.layout? = none) : c.quotations = [] := by
  cases c with
  | absent => rfl
  | number n => cases h
  | text s => cases h

theorem quotedTokens_column (c : Column) : quotedTokens d (c.layout d) = c.quotations d := by
  have hdefault : quotedTokens d c.defaultLayout = c.default.quotations := by
    unfold Column.defaultLayout
    cases h : c.default.layout? with
    | none => exact (quotations_of_layout? h).symm
    | some value => simp [quotedTokens_value h]
  have hlabel : quotedTokens d (c.commentLayout d) = c.labelQuotations d := by
    cases d with
    | mysql =>
        by_cases h : c.label = "" <;> simp [Column.commentLayout, Column.labelQuotations, h]
    | postgres => rfl
    | sqlite => rfl
  simp [Column.layout, Column.specification, Column.quotations, hdefault, hlabel]

theorem quotedTokens_systemColumn (c : SystemColumn) :
    quotedTokens d (c.layout d) = c.quotations d := by
  cases d <;> simp [SystemColumn.layout, SystemColumn.quotations]

theorem quotedTokens_clause (k : Clause) : quotedTokens d (k.layout d) = k.quotations d := by
  cases k with
  | addColumn c => simp [Clause.layout, Clause.quotations, quotedTokens_column]
  | modifyColumn c => simp [Clause.layout, Clause.quotations, quotedTokens_column]
  | alterType key type => simp [Clause.layout, Clause.quotations]
  | alterDefault key default =>
      cases h : default.layout? with
      | none => simp [Clause.layout, Clause.quotations, h, quotations_of_layout? h]
      | some value => simp [Clause.layout, Clause.quotations, h, quotedTokens_value h]

theorem quotedTokens_tableOptions (comment : Option String) :
    quotedTokens d (Statement.tableOptions d e comment) =
      Statement.optionQuotations d e comment := by
  cases d with
  | mysql =>
      have hverbatim : ∀ (text : String) (l : Layout), quotedTokens .mysql (.verbatim text :: l) =
          quotedTokens .mysql [.verbatim text] ++ quotedTokens .mysql l := fun text l =>
        quotedTokens_append [.verbatim text] l
      cases comment with
      | none =>
          simp [Statement.tableOptions, Statement.optionQuotations, hverbatim e.engine (_ :: _)]
      | some text =>
          simp [Statement.tableOptions, Statement.optionQuotations, hverbatim e.engine (_ :: _),
            hverbatim e.charset (_ :: _)]
  | postgres => rfl
  | sqlite => rfl

theorem quotedTokens_columnLayouts (columns : List Column) :
    quotedTokens d ([mark ',', .gap "\n"].intercalate
      ((Statement.columnLayouts d columns).map fun l => .gap "  " :: l)) =
    systemColumns.flatMap (·.quotations d) ++ columns.flatMap (·.quotations d) := by
  rw [quotedTokens_intercalate rfl, List.flatMap_map]
  simp [Statement.columnLayouts, List.flatMap_append, List.flatMap_map, quotedTokens_column,
    quotedTokens_systemColumn]

/-- **The quoted tokens of a statement are its names and its literals.** -/
theorem quotedTokens_statement (st : Statement) :
    quotedTokens d (st.layout d e) = st.quotations d e := by
  cases st with
  | createTable table columns comment =>
      simp [Statement.layout, Statement.quotations, quotedTokens_columnLayouts,
        quotedTokens_tableOptions]
  | alterTable table clause => simp [Statement.layout, Statement.quotations, quotedTokens_clause]
  | createIndex index table key => simp [Statement.layout, Statement.quotations]
  | dropIndex index table => cases d <;> simp [Statement.layout, Statement.quotations]
  | commentTable table text => simp [Statement.layout, Statement.quotations]
  | commentColumn table key text => simp [Statement.layout, Statement.quotations]

/-! ### Outside the quotes -/

namespace Sql

/-- A token without the string in its quotes. -/
def Token.unquoted : Token → Token
  | word text => .word text
  | mark c => .mark c
  | name _ => .name ""
  | literal _ => .literal ""

/-- A piece without the string in its quotes. -/
def Piece.unquoted : Piece → Piece
  | token t => .token t.unquoted
  | gap blanks => .gap blanks
  | verbatim text => .verbatim text

/-- That two layouts differ in their quotes only. -/
def Alike (l m : Layout) : Prop := l.map Piece.unquoted = m.map Piece.unquoted

theorem Alike.refl (l : Layout) : Alike l l := rfl

theorem Alike.append {l l' m m' : Layout} (hl : Alike l l') (hm : Alike m m') :
    Alike (l ++ m) (l' ++ m') := by
  rw [Alike, List.map_append, List.map_append, hl, hm]

theorem Alike.name (s s' : String) {l l' : Layout} (h : Alike l l') :
    Alike (name s :: l) (name s' :: l') := congrArg (Piece.token (.name "") :: ·) h

theorem Alike.literal (s s' : String) {l l' : Layout} (h : Alike l l') :
    Alike (literal s :: l) (literal s' :: l') := congrArg (Piece.token (.literal "") :: ·) h

theorem Alike.cons (p : Piece) {l l' : Layout} (h : Alike l l') : Alike (p :: l) (p :: l') :=
  congrArg (p.unquoted :: ·) h

theorem Alike.intercalate (separator : Layout) {ls ls' : List Layout}
    (h : List.Forall₂ Alike ls ls') :
    Alike (separator.intercalate ls) (separator.intercalate ls') := by
  induction h with
  | nil => exact .refl _
  | cons hl hls ih =>
      cases hls with
      | nil => simpa [List.intercalate] using hl
      | cons hm hms =>
          have hall := (hl.append (.refl separator)).append ih
          simpa [List.intercalate] using hall

theorem Alike.readTokens {l l' : Layout} (h : Alike l l') :
    (readTokens d l).map Token.unquoted = (readTokens d l').map Token.unquoted := by
  -- both are compared with the layout whose quotes are empty
  have hpiece : ∀ p : Piece, (p.read d).map Token.unquoted =
      (p.unquoted.read d).map Token.unquoted := by
    rintro (t | blanks | text)
    · cases t <;> rfl
    · rfl
    · rfl
  have hlayout : ∀ l : Layout, (Sql.readTokens d l).map Token.unquoted =
      (Sql.readTokens d (l.map Piece.unquoted)).map Token.unquoted := by
    intro l
    induction l with
    | nil => rfl
    | cons p l ih =>
        rw [readTokens_cons, List.map_cons, readTokens_cons, List.map_append, List.map_append,
          hpiece p, ih]
  rw [hlayout l, h, ← hlayout l']

end Sql

/-- A default without its text. -/
def Default.shape : Default → Default
  | absent => .absent
  | number n => .number n
  | text _ => .text ""

/-- A column without its strings; a label that is there becomes a fixed one. -/
def Column.shape (c : Column) : Column :=
  { key := "", type := c.type, default := c.default.shape,
    label := if c.label = "" then "" else "label", indexed := false }

/-- A clause without its strings. -/
def Clause.shape : Clause → Clause
  | addColumn c => .addColumn c.shape
  | modifyColumn c => .modifyColumn c.shape
  | alterType _ type => .alterType "" type
  | alterDefault _ default => .alterDefault "" default.shape

/-- **A statement without its strings**: types, lengths and numbers are kept, and so is whether a
default, a label or a comment is there. -/
def Statement.shape : Statement → Statement
  | createTable _ columns comment =>
      .createTable "" (columns.map (·.shape)) (comment.map fun _ => "")
  | alterTable _ clause => .alterTable "" clause.shape
  | createIndex _ _ _ => .createIndex "" "" ""
  | dropIndex _ _ => .dropIndex "" ""
  | commentTable _ _ => .commentTable "" ""
  | commentColumn _ _ _ => .commentColumn "" "" ""

theorem alike_column (d : Dialect) (c : Column) : Alike (c.layout d) (c.shape.layout d) := by
  have hdefault : Alike c.defaultLayout c.shape.defaultLayout := by
    unfold Column.defaultLayout Column.shape
    cases c.default with
    | absent => exact .refl _
    | number n => exact .refl _
    | text s => exact .cons _ (.append (.refl _) (.literal _ _ (.refl _)))
  have hlabel : Alike (c.commentLayout d) (c.shape.commentLayout d) := by
    cases d with
    | mysql =>
        by_cases h : c.label = ""
        · simp [Column.commentLayout, Column.shape, h, Alike]
        · simp only [Column.commentLayout, Column.shape, if_neg h]
          exact .cons _ (.append (.refl _) (.literal _ _ (.refl _)))
    | postgres => exact .refl _
    | sqlite => exact .refl _
  exact .name _ _ (.cons _ (.append (.append (.refl _) hdefault) hlabel))

theorem alike_clause (d : Dialect) (k : Clause) : Alike (k.layout d) (k.shape.layout d) := by
  cases k with
  | addColumn c => exact .append (.refl _) (alike_column d c)
  | modifyColumn c => exact .append (.refl _) (alike_column d c)
  | alterType key type => exact .append (.append (.refl _) (.name _ _ (.refl _))) (.refl _)
  | alterDefault key default =>
      refine .append (.refl _) (.name _ _ (.cons _ ?_))
      cases default with
      | absent => exact .refl _
      | number n => exact .refl _
      | text s => exact .append (.refl _) (.literal _ _ (.refl _))

theorem alike_columnLayouts (d : Dialect) (columns : List Column) :
    List.Forall₂ Alike ((Statement.columnLayouts d columns).map fun l => .gap "  " :: l)
      ((Statement.columnLayouts d (columns.map (·.shape))).map fun l => .gap "  " :: l) := by
  unfold Statement.columnLayouts
  rw [List.map_append, List.map_append]
  refine List.rel_append (List.forall₂_same.2 fun l _ => .refl l) ?_
  simp only [List.map_map, List.forall₂_map_left_iff, List.forall₂_map_right_iff,
    List.forall₂_same]
  exact fun c _ => .cons _ (alike_column d c)

/-- **A statement and its shape differ in their quotes only.** -/
theorem alike_statement (d : Dialect) (e : Engine) (st : Statement) :
    Alike (st.layout d e) (st.shape.layout d e) := by
  cases st with
  | createTable table columns comment =>
      have hoptions : Alike (Statement.tableOptions d e comment)
          (Statement.tableOptions d e (comment.map fun _ => "")) := by
        cases d with
        | mysql =>
            cases comment with
            | none => exact .refl _
            | some text =>
                exact .append (.refl _) (.cons _ (.cons _ (.cons _ (.literal _ _ (.refl _)))))
        | postgres => exact .refl _
        | sqlite => exact .refl _
      exact .append (.append (.append (.append (.refl _) (.name _ _ (.refl _)))
        (.intercalate _ (alike_columnLayouts d columns))) (.refl _)) hoptions
  | alterTable table clause =>
      exact .append (.append (.refl _) (.name _ _ (.refl _))) (alike_clause d clause)
  | createIndex index table key =>
      exact .append (.append (.append (.refl _) (.name _ _ (.refl _))) (.refl _))
        (.name _ _ (.cons _ (.cons _ (.name _ _ (.refl _)))))
  | dropIndex index table =>
      refine .append (.refl _) (.name _ _ ?_)
      cases d with
      | mysql => exact .cons _ (.append (.refl _) (.name _ _ (.refl _)))
      | postgres => exact .refl _
      | sqlite => exact .refl _
  | commentTable table text =>
      exact .append (.append (.append (.refl _) (.name _ _ (.refl _))) (.refl _))
        (.literal _ _ (.refl _))
  | commentColumn table key text =>
      exact .append (.append (.append (.refl _) (.name _ _ (.cons _ (.name _ _ (.refl _)))))
        (.refl _)) (.literal _ _ (.refl _))

/-! ### Both -/

/-- **That nothing gets out of the quotes of a statement.**  Its text is read as tokens; the quoted
ones are its names and literals, and the others are those of its shape. -/
structure Statement.Quotes (d : Dialect) (e : Engine) (st : Statement) (ts : List Token) :
    Prop where
  read : scan d (st.write d e) = some ts
  inside : ts.filter Token.isQuoted = st.quotations d e
  outside : ∃ ts', scan d (st.shape.write d e) = some ts' ∧
    ts.map Token.unquoted = ts'.map Token.unquoted

/-- **Nothing gets out of the quotes of a statement.** -/
theorem quotes_statement (he : d = .mysql → e.Closes) (st : Statement) :
    st.Quotes d e (readTokens d (st.layout d e)) :=
  ⟨scan_statement he st, quotedTokens_statement st,
    _, scan_statement he st.shape, (alike_statement d e st).readTokens⟩

end Conform

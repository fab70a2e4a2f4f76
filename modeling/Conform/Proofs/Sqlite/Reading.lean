/-
**SQLite reads the statements that are written for it.**

The text of a new table, of a new column and of an index that is made or dropped is read as the
command that it stands for, whatever names, types and defaults it is made of.  Other statements are
not written for SQLite.

Main definitions:

* `ColumnType.text`, `Default.text?` — a type and a default as they are written;
* `Sqlite.Column.ofWanted`, `Sqlite.Column.ofSystem` — the columns that are kept of a wanted
  column and of a system column;
* `Statement.command?` — **the command that a statement stands for**.

Main results:

* `Sqlite.readColumn_tokens`, `Sqlite.readColumn_systemTokens` — columns are read back;
* `Sqlite.execute_write` — **executing the text of a statement is running its command**.
-/

import Conform.Proofs.Sql.Spacing
import Conform.Sqlite.Command

set_option relaxedAutoImplicit false
set_option autoImplicit false

namespace Conform

open Sql

/-! ### The tokens of layouts -/

namespace Sql

@[simp] theorem tokens_nil : tokens [] = [] := rfl

@[simp] theorem tokens_append (l m : Layout) : tokens (l ++ m) = tokens l ++ tokens m :=
  List.filterMap_append

@[simp] theorem tokens_token_cons (t : Token) (l : Layout) :
    tokens (.token t :: l) = t :: tokens l := rfl

@[simp] theorem tokens_gap_cons (blanks : String) (l : Layout) :
    tokens (.gap blanks :: l) = tokens l := rfl

@[simp] theorem tokens_words (ws : List String) : tokens (words ws) = ws.map .word := by
  induction ws with
  | nil => rfl
  | cons w ws ih => exact congrArg (Token.word w :: ·) ih

theorem tokens_intercalate (separator : Layout) (ls : List Layout) :
    tokens (separator.intercalate ls) = (tokens separator).intercalate (ls.map tokens) := by
  induction ls with
  | nil => rfl
  | cons l ls ih =>
      cases ls with
      | nil => simp [List.intercalate]
      | cons m ls => simpa [List.intercalate] using ih

end Sql

/-- **A physical type with its length as it is written.** -/
def ColumnType.text (t : ColumnType) : String :=
  match t.length with
  | none => t.storage.keyword
  | some n => s!"{t.storage.keyword}({n})"

/-- **The value of a default as it is written**, if there is a default. -/
def Default.text? : Default → Option String
  | absent => none
  | number n => some (toString n.toInt)
  | text s => some (Sqlite.Command.literalText s)

namespace Sqlite

/-- The column that is kept of a wanted column. -/
def Column.ofWanted (c : Conform.Column) : Column :=
  { name := c.key, type := some c.type.text, default := c.default.text? }

/-- The column that is kept of a system column. -/
def Column.ofSystem : SystemColumn → Column
  | .id => .ofType "INTEGER" "id"
  | .createdAt =>
      { name := "created_at", type := some "DATETIME", notNull := true,
        default := some "CURRENT_TIMESTAMP" }
  | .updatedAt =>
      { name := "updated_at", type := some "DATETIME", notNull := true,
        default := some "CURRENT_TIMESTAMP" }
  | .deletedAt => { name := "deleted_at", type := some "DATETIME", default := some "NULL" }
  | .state => { name := "state", type := some "INTEGER", notNull := true, default := some "1" }

@[simp] theorem Column.name_ofWanted (c : Conform.Column) : (Column.ofWanted c).name = c.key := rfl

@[simp] theorem Column.name_ofSystem (c : SystemColumn) : (Column.ofSystem c).name = c.key := by
  cases c <;> rfl

/-- The columns of a new table. -/
def newColumns (columns : List Conform.Column) : List Column :=
  systemColumns.map Column.ofSystem ++ columns.map Column.ofWanted

end Sqlite

/-- **The command that a statement stands for**, if it is one that is written for SQLite. -/
def Statement.command? : Statement → Option Sqlite.Command
  | createTable table columns _ =>
      some (.createTable table (Sqlite.newColumns columns) true .free)
  | alterTable table (.addColumn c) => some (.addColumn table (.ofWanted c))
  | createIndex index table key => some (.createIndex index false table [.column key])
  | dropIndex index _ => some (.dropIndex index)
  | alterTable _ _ | commentTable _ _ | commentColumn _ _ _ => none

namespace Sqlite

open Command

/-! ### Columns -/

/-- What can follow a column: the end, a comma, or the parenthesis that closes the columns. -/
def Closes (rest : List Token) : Prop := ∀ t ∈ rest.head?, t = .mark ',' ∨ t = .mark ')'

theorem closes_comma (rest : List Token) : Closes (.mark ',' :: rest) := by simp [Closes]

theorem closes_nil : Closes [] := by simp [Closes]

theorem readConstraints_of_closes (n : Nat) (c : Column) {rest : List Token} (h : Closes rest) :
    readConstraints n c rest = (c, rest) := by
  cases n with
  | zero => rfl
  | succ n =>
      have hnone : readConstraint c rest = none := by
        cases rest with
        | nil => rfl
        | cons t rest => rcases h t rfl with rfl | rfl <;> rfl
      simp [readConstraints, hnone]

/-- A constraint that is read leaves the others to be read. -/
theorem readConstraints_succ {n : Nat} {c c' : Column} {ts ts' : List Token}
    (h : readConstraint c ts = some (c', ts')) :
    readConstraints (n + 1) c ts = readConstraints n c' ts' := by
  rw [readConstraints, h]

/-- A type is read as it was written, unless a parenthesis follows it. -/
theorem readType_tokens (t : ColumnType) {rest : List Token}
    (h : rest.head? ≠ some (.mark '(')) :
    readType (tokens t.layout ++ rest) = some (t.text, rest) := by
  obtain ⟨storage, length⟩ := t
  cases length with
  | some n => rfl
  | none =>
      cases rest with
      | nil => rfl
      | cons u rest =>
          have hu : u ≠ .mark '(' := fun e => h (by rw [e]; rfl)
          simp only [ColumnType.layout, Sql.word, tokens_token_cons, tokens_nil, List.cons_append,
            List.nil_append, ColumnType.text]
          unfold readType
          split
          · simp_all
          · simp_all
          · simp_all

theorem readValue_tokens {default : Default} {value : Layout} (h : default.layout? = some value)
    (rest : List Token) :
    ∃ text, default.text? = some text ∧ readValue (tokens value ++ rest) = some (text, rest) := by
  cases default with
  | absent => simp [Default.layout?] at h
  | number n =>
      obtain rfl := Option.some.inj h
      refine ⟨toString n.toInt, rfl, ?_⟩
      cases n.toInt <;> rfl
  | text s =>
      obtain rfl := Option.some.inj h
      exact ⟨literalText s, rfl, rfl⟩

/-- A wanted column has its key, its type and its default for tokens. -/
theorem tokens_column (c : Conform.Column) :
    tokens (c.layout .sqlite) =
      .name c.key :: (tokens c.type.layout ++ tokens c.defaultLayout) := by
  simp [Column.layout, Column.specification, Column.commentLayout, Sql.name, Sql.space]

/-- **A wanted column is read as it was written.** -/
theorem readColumn_tokens (c : Conform.Column) {rest : List Token} (h : Closes rest) :
    readColumn (tokens (c.layout .sqlite) ++ rest) = some (.ofWanted c, rest) := by
  have hparenthesis : rest.head? ≠ some (.mark '(') := by
    intro e
    rcases h _ e with e | e <;> simp at e
  cases hdefault : c.default.layout? with
  | none =>
      have hempty : c.default.text? = none := by
        cases hc : c.default <;> simp_all [Default.layout?, Default.text?]
      have htokens : tokens c.defaultLayout = [] := by simp [Column.defaultLayout, hdefault]
      rw [tokens_column, htokens, List.append_nil, List.cons_append]
      simp only [readColumn, readType_tokens c.type hparenthesis, Option.map_some,
        readConstraints_of_closes _ _ h]
      simp [Column.ofType, Column.ofWanted, hempty]
  | some value =>
      obtain ⟨text, htext, hread⟩ := readValue_tokens hdefault rest
      have htokens : tokens c.defaultLayout = .word "DEFAULT" :: tokens value := by
        simp [Column.defaultLayout, hdefault, Sql.space]
      have hconstraint : readConstraint (.ofType c.type.text c.key)
          (.word "DEFAULT" :: (tokens value ++ rest)) = some (.ofWanted c, rest) := by
        simp [readConstraint, hread, Column.ofType, Column.ofWanted, htext]
      rw [tokens_column, htokens, List.cons_append, List.append_assoc, List.cons_append]
      simp only [readColumn]
      rw [readType_tokens c.type (by simp)]
      simp only [Option.map_some, List.length_cons]
      rw [readConstraints_succ hconstraint, readConstraints_of_closes _ _ h]

/-- The constraints of a system column are read one after the other. -/
theorem readConstraints_systemTokens (c : SystemColumn) {rest : List Token} (h : Closes rest) :
    ∃ (type : String) (constraints : List Token),
      tokens (c.layout .sqlite) = .name c.key :: .word type :: constraints ∧
      constraints.head? ≠ some (.mark '(') ∧ constraints ≠ [] ∧
      readConstraints (constraints ++ rest).length (.ofType type c.key) (constraints ++ rest) =
        (.ofSystem c, rest) := by
  cases c with
  | id =>
      refine ⟨"INTEGER", [.word "PRIMARY", .word "KEY", .word "AUTOINCREMENT"], rfl, by simp,
        by simp, ?_⟩
      rw [List.length_append, Nat.add_comm]
      exact readConstraints_of_closes (rest.length + 1) _ h
  | createdAt =>
      refine ⟨"DATETIME", [.word "NOT", .word "NULL", .word "DEFAULT", .word "CURRENT_TIMESTAMP"],
        rfl, by simp, by simp, ?_⟩
      rw [List.length_append, Nat.add_comm]
      exact readConstraints_of_closes (rest.length + 2) _ h
  | updatedAt =>
      refine ⟨"DATETIME", [.word "NOT", .word "NULL", .word "DEFAULT", .word "CURRENT_TIMESTAMP"],
        rfl, by simp, by simp, ?_⟩
      rw [List.length_append, Nat.add_comm]
      exact readConstraints_of_closes (rest.length + 2) _ h
  | deletedAt =>
      refine ⟨"DATETIME", [.word "NULL", .word "DEFAULT", .word "NULL"], rfl, by simp, by simp, ?_⟩
      rw [List.length_append, Nat.add_comm]
      exact readConstraints_of_closes (rest.length + 1) _ h
  | state =>
      refine ⟨"INTEGER", [.word "NOT", .word "NULL", .word "DEFAULT", .word "1"], rfl, by simp,
        by simp, ?_⟩
      rw [List.length_append, Nat.add_comm]
      exact readConstraints_of_closes (rest.length + 2) _ h

/-- **A system column is read as it was written.** -/
theorem readColumn_systemTokens (c : SystemColumn) {rest : List Token} (h : Closes rest) :
    readColumn (tokens (c.layout .sqlite) ++ rest) = some (.ofSystem c, rest) := by
  obtain ⟨type, constraints, htokens, hhead, hne, hread⟩ := readConstraints_systemTokens c h
  have htype : readType (.word type :: (constraints ++ rest)) =
      some (type, constraints ++ rest) := by
    cases constraints with
    | nil => exact absurd rfl hne
    | cons t ts =>
        have ht : t ≠ .mark '(' := fun e => hhead (by rw [e]; rfl)
        simp only [List.cons_append]
        unfold readType
        split <;> simp_all
  rw [htokens, List.cons_append, List.cons_append]
  simp only [readColumn, htype, Option.map_some, hread]

/-- The tokens of columns with commas between them, up to the closing parenthesis. -/
def columnTokens (parts : List (List Token × Column)) : List Token :=
  [Token.mark ','].intercalate (parts.map (·.1)) ++ [Token.mark ')']

theorem columnTokens_singleton (p : List Token × Column) :
    columnTokens [p] = p.1 ++ [Token.mark ')'] := by
  simp [columnTokens, List.intercalate]

theorem columnTokens_cons_cons (p q : List Token × Column) (parts : List (List Token × Column)) :
    columnTokens (p :: q :: parts) = p.1 ++ Token.mark ',' :: columnTokens (q :: parts) := by
  simp [columnTokens, List.intercalate]

theorem length_columnTokens (parts : List (List Token × Column)) :
    parts.length ≤ (columnTokens parts).length := by
  induction parts with
  | nil => simp
  | cons p parts ih =>
      cases parts with
      | nil => simp [columnTokens_singleton]
      | cons q parts =>
          rw [columnTokens_cons_cons]
          simp only [List.length_append, List.length_cons] at ih ⊢
          omega

/-- **The columns between the parentheses of a new table are read in order.** -/
theorem readColumns_columnTokens {parts : List (List Token × Column)} (hne : parts ≠ [])
    (hread : ∀ p ∈ parts, ∀ rest, Closes rest → readColumn (p.1 ++ rest) = some (p.2, rest))
    {n : Nat} (hn : parts.length ≤ n) :
    readColumns n (columnTokens parts) = some (parts.map (·.2)) := by
  -- the number bounds the columns that are still to be read
  induction parts generalizing n with
  | nil => exact absurd rfl hne
  | cons p parts ih =>
      obtain ⟨n, rfl⟩ : ∃ m, n = m + 1 := ⟨n - 1, by simp at hn; omega⟩
      cases parts with
      | nil =>
          have hlast := hread p (List.mem_cons_self ..) [Token.mark ')'] (by simp [Closes])
          rw [columnTokens_singleton, readColumns, hlast]
          rfl
      | cons q parts =>
          have hrest := ih (by simp) (fun r hr => hread r (List.mem_cons_of_mem _ hr))
            (n := n) (by simp at hn ⊢; omega)
          have hfirst := hread p (List.mem_cons_self ..) _
            (closes_comma (columnTokens (q :: parts)))
          rw [columnTokens_cons_cons, readColumns, hfirst]
          simp only [hrest, Option.map_some, List.map_cons]

/-! ### Statements -/

/-- The columns of a new table with their tokens. -/
def columnParts (columns : List Conform.Column) : List (List Token × Column) :=
  systemColumns.map (fun c => (tokens (c.layout .sqlite), Column.ofSystem c)) ++
    columns.map fun c => (tokens (c.layout .sqlite), Column.ofWanted c)

theorem columnParts_snd (columns : List Conform.Column) :
    (columnParts columns).map (·.2) = newColumns columns := by
  simp [columnParts, newColumns, Function.comp_def]

theorem tokens_createTable (e : Engine) (table : String) (columns : List Conform.Column)
    (comment : Option String) :
    tokens ((Statement.createTable table columns comment).layout .sqlite e) =
      .word "CREATE" :: .word "TABLE" :: .name table :: .mark '(' ::
        columnTokens (columnParts columns) := by
  simp [Statement.layout, Statement.tableOptions, Statement.columnLayouts, Sql.name, Sql.space,
    Sql.mark, tokens_intercalate, columnTokens, columnParts, Function.comp_def]

/-- The first column says that a new table numbers its rows. -/
theorem numbers_columnTokens (columns : List Conform.Column) :
    (columnTokens (columnParts columns)).contains (Token.word "AUTOINCREMENT") = true := by
  have hmem : Token.word "AUTOINCREMENT" ∈ tokens (SystemColumn.id.layout .sqlite) := by
    simp [SystemColumn.layout, SystemColumn.keywords, lastWords, List.intercalate, Sql.name,
      Sql.space]
  have hsplit : ∃ q parts, columnParts columns =
      (tokens (SystemColumn.id.layout .sqlite), Column.ofSystem .id) :: q :: parts := ⟨_, _, rfl⟩
  obtain ⟨q, parts, hparts⟩ := hsplit
  rw [hparts, columnTokens_cons_cons, List.contains_iff_mem]
  exact List.mem_append_left _ hmem

/-- A new table is read as it was written. -/
theorem ofTokens?_createTable (e : Engine) (table : String) (columns : List Conform.Column)
    (comment : Option String) :
    ofTokens? (tokens ((Statement.createTable table columns comment).layout .sqlite e)) =
      some (.createTable table (newColumns columns) true .free) := by
  have hread : ∀ p ∈ columnParts columns, ∀ rest, Closes rest →
      readColumn (p.1 ++ rest) = some (p.2, rest) := by
    intro p hp rest hrest
    rcases List.mem_append.1 hp with hp | hp
    · obtain ⟨c, _, rfl⟩ := List.mem_map.1 hp
      exact readColumn_systemTokens c hrest
    · obtain ⟨c, _, rfl⟩ := List.mem_map.1 hp
      exact readColumn_tokens c hrest
  have hcolumns := readColumns_columnTokens (by simp [columnParts, systemColumns]) hread
    (length_columnTokens (columnParts columns))
  rw [tokens_createTable]
  simp only [ofTokens?, and_self, if_true, readCreateTable, hcolumns, Option.map_some,
    numbers_columnTokens, columnParts_snd]

/-- **The tokens of a statement are read as its command.** -/
theorem ofTokens?_tokens (e : Engine) {s : Statement} {c : Command} (h : s.command? = some c) :
    ofTokens? (tokens (s.layout .sqlite e)) = some c := by
  cases s with
  | createTable table columns comment =>
      obtain rfl := Option.some.inj h
      exact ofTokens?_createTable e table columns comment
  | alterTable table clause =>
      cases clause with
      | addColumn column =>
          obtain rfl := Option.some.inj h
          have hread := readColumn_tokens column closes_nil
          rw [List.append_nil] at hread
          simp [Statement.layout, Clause.layout, Sql.name, Sql.space, ofTokens?, readAlterTable,
            hread]
      | modifyColumn _ => simp [Statement.command?] at h
      | alterType _ _ => simp [Statement.command?] at h
      | alterDefault _ _ => simp [Statement.command?] at h
  | createIndex index table key =>
      obtain rfl := Option.some.inj h
      simp [Statement.layout, Sql.name, Sql.space, Sql.mark, ofTokens?, readCreateIndex]
  | dropIndex index table =>
      obtain rfl := Option.some.inj h
      simp [Statement.layout, Sql.name, ofTokens?, readDropIndex]
  | commentTable _ _ => simp [Statement.command?] at h
  | commentColumn _ _ _ => simp [Statement.command?] at h

/-- **Executing the text of a statement is running its command.** -/
theorem execute_write (db : Database) (e : Engine) {s : Statement} {c : Command}
    (h : s.command? = some c) : db.execute (s.write .sqlite e) = c.run db := by
  have hscan := scan_write (spaced_statement (d := .sqlite) (e := e) (s := s) (.inl (by decide)))
  simp [Database.execute, Statement.write, hscan, ofTokens?_tokens e h]

end Sqlite

end Conform

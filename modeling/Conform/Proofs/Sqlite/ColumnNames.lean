/-
**The names of the columns of a new table.**

The columns that a definition declares and those that every table has get different names.  But to
MySQL and SQLite names that differ in letter case only are the same, and the checks of a definition
tell keys apart by any difference; so a key can spell the name of a system column, or another key,
in other letters.  Such a definition has no errors, and SQLite never makes its table.

Main definitions:

* `Statement.columnNames` — **the names with which the columns of a new table are written**;
* `Respells` — that a name is another one in other letters.

Main results:

* `columnNames_createTable` — a new table has the system columns and the declared ones;
* `lowercase_nodup_iff` — **when the names are different in any letters**;
* `Sqlite.run_syncTable_of_respelled` — SQLite does not make a table with a name twice;
* `distinct_columns_iff` — **both together**.
-/

import Conform.Proofs.Sqlite.History

set_option relaxedAutoImplicit false
set_option autoImplicit false

namespace Conform

open Session

variable {d : Dialect} {o : Options} {t : Definition} {fields : List Field}

/-! ### Names as they are written -/

/-- The name with which a layout begins. -/
def Sql.headName? : Layout → Option String
  | .token (.name n) :: _ => some n
  | _ => none

/-- **The names with which the columns of a new table are written**, in order. -/
def Statement.columnNames (d : Dialect) : Statement → List String
  | createTable _ columns _ => (columnLayouts d columns).filterMap Sql.headName?
  | alterTable _ _ | createIndex _ _ _ | dropIndex _ _ | commentTable _ _ | commentColumn _ _ _ =>
      []

/-- **A new table has the system columns and the declared ones.** -/
theorem columnNames_createTable (d : Dialect) (table : String) (columns : List Column)
    (comment : Option String) :
    (Statement.createTable table columns comment).columnNames d =
      reservedKeys ++ columns.map (·.key) := by
  have hsystem : (systemColumns.map (·.layout d)).filterMap Sql.headName? = reservedKeys := by
    rw [List.filterMap_map, ← systemColumns_keys, ← List.filterMap_eq_map]
    rfl
  have hdeclared : (columns.map (·.layout d)).filterMap Sql.headName? = columns.map (·.key) := by
    rw [List.filterMap_map, ← List.filterMap_eq_map]
    rfl
  rw [Statement.columnNames, Statement.columnLayouts, List.filterMap_append, hsystem, hdeclared]

/-! ### Letter case -/

/-- **That a name is another one in other letters.** -/
def Respells (a b : String) : Prop := a ≠ b ∧ Text.lowercase a = Text.lowercase b

instance (a b : String) : Decidable (Respells a b) := inferInstanceAs (Decidable (_ ∧ _))

/-- **When the names of a table are different in any letters**: no declared key respells one. -/
theorem lowercase_nodup_iff {keys : List String} (h : (reservedKeys ++ keys).Nodup) :
    ((reservedKeys ++ keys).map Text.lowercase).Nodup ↔
      ∀ key ∈ keys, ∀ name ∈ reservedKeys ++ keys, ¬Respells key name := by
  rw [List.nodup_map_iff_inj_on h]
  constructor
  · rintro hinj key hkey name hname ⟨hne, hsame⟩
    exact hne (hinj key (List.mem_append_right _ hkey) name hname hsame)
  · intro hfree a ha b hb hsame
    by_contra hne
    -- the system columns do not respell each other, so one of the two names is declared
    rcases List.mem_append.1 ha with hsystem | hkey
    · rcases List.mem_append.1 hb with hsystem' | hkey'
      · have hreserved : ∀ a ∈ reservedKeys, ∀ b ∈ reservedKeys, ¬Respells a b := by
          decide +kernel
        exact hreserved a hsystem b hsystem' ⟨hne, hsame⟩
      · exact hfree b hkey' a ha ⟨fun e => hne e.symm, hsame.symm⟩
    · exact hfree a hkey b hb ⟨hne, hsame⟩

namespace Sqlite

/-! ### Tables that are not made -/

/-- A name that stands twice in other letters keeps the columns from being distinct. -/
theorem not_distinct_of_respelled {key name : String}
    (hkey : key ∈ reservedKeys ++ fields.map (·.key))
    (hname : name ∈ reservedKeys ++ fields.map (·.key)) (h : Respells key name) :
    ¬DistinctColumns (newColumns (fields.map (·.column .sqlite))) := by
  intro hdistinct
  have hfolded :
      (((newColumns (fields.map (·.column .sqlite))).map (·.name)).map foldName).Nodup := by
    rw [List.map_map]
    exact hdistinct
  rw [names_newColumns] at hfolded
  exact h.1 (List.inj_on_of_nodup_map hfolded hkey hname h.2)

/-- **SQLite does not make a table with a name twice**: the sync ends with the error of the
database, which is as it was. -/
theorem run_syncTable_of_respelled {key name : String} (hread : t.readFields .sqlite = .ok fields)
    (hkey : key ∈ reservedKeys ++ fields.map (·.key))
    (hname : name ∈ reservedKeys ++ fields.map (·.key)) (h : Respells key name)
    {j : Journal Database} (habsent : j.state.hasTable t.table = false)
    (hsends : o.planOnly = false) :
    ∃ e log, (syncTable backend o t).run j = (.error (.backend e), ⟨j.state, log⟩) := by
  obtain ⟨c, hc⟩ : ∃ c, (Statement.createTable t.table (fields.map (·.column .sqlite))
      t.comment).command? = some c := ⟨_, rfl⟩
  obtain ⟨e, hrefused⟩ : ∃ e, c.run j.state = .error e := by
    obtain rfl := Option.some.inj hc
    cases hrun : (Command.createTable t.table (newColumns (fields.map (·.column .sqlite))) true
        .free).run j.state with
    | error e => exact ⟨e, rfl⟩
    | ok db' =>
        have hmade := Database.createTable_succeeds_iff.1 ⟨db', hrun⟩
        exact absurd hmade.distinct (not_distinct_of_respelled hkey hname h)
  obtain ⟨log, hrun⟩ := run_syncTable o t j
  refine ⟨backendError e, log, ?_⟩
  rw [hrun, syncOn, hread]
  simp only [planOn_of_absent habsent, hsends, statements_planNewTable_sqlite, commandsOf_cons hc,
    Database.runCommands_cons_error hrefused, Bool.false_eq_true, if_false]

end Sqlite

/-- **When the columns of a definition without errors are different.**  The names with which they
are written are those of the system columns and the keys that are declared, and no two of them are
the same.  In any letters they are different exactly if no key respells a name of the table; where
one does, SQLite refuses the table in every sync that would make it. -/
theorem distinct_columns_iff (d : Dialect) (o : Options) (t : Definition) (h : t.errors d = []) :
    ∃ fields st, t.readFields d = .ok fields ∧
      (planNewTable d o t.table fields t.comment).plan.create = some st ∧
      st.columnNames d = reservedKeys ++ t.fields.map (·.1) ∧ (st.columnNames d).Nodup ∧
      (((st.columnNames d).map Text.lowercase).Nodup ↔
        ∀ key ∈ t.fields.map (·.1), ∀ name ∈ st.columnNames d, ¬Respells key name) ∧
      (d = .sqlite → ∀ key ∈ t.fields.map (·.1), ∀ name ∈ st.columnNames d, Respells key name →
        ∀ j : Journal Sqlite.Database, j.state.hasTable t.table = false → o.planOnly = false →
          ∃ e log,
            (syncTable Sqlite.backend o t).run j = (.error (.backend e), ⟨j.state, log⟩)) := by
  obtain ⟨fields, hread⟩ := readFields_of_errors h
  have hkeys := keys_of_readFields hread
  have hnames : (Statement.createTable t.table (fields.map (·.column d)) t.comment).columnNames d =
      reservedKeys ++ t.fields.map (·.1) := by
    rw [columnNames_createTable, keys_columns, hkeys]
  have hdistinct : (reservedKeys ++ t.fields.map (·.1)).Nodup :=
    hkeys ▸ newTable_nodup (declared_of_readFields hread)
  refine ⟨fields, _, hread, rfl, hnames, hnames ▸ hdistinct, ?_, ?_⟩
  · rw [hnames]
    exact lowercase_nodup_iff hdistinct
  · rintro rfl key hkey name hname hrespells j habsent hsends
    rw [hnames, ← hkeys] at hname
    rw [← hkeys] at hkey
    exact Sqlite.run_syncTable_of_respelled hread (List.mem_append_right _ hkey) hname hrespells
      habsent hsends

/-- Users that declare a column with the name of the first system column in capitals. -/
def respelledUsers : Definition := ⟨"user", none, [("ID", "key|number|null|null|null|0|null")]⟩

/-- The names of the table of users are different in any letters; with the other one SQLite makes no
table. -/
theorem distinct_columns_users :
    (users.errors .sqlite = [] ∧ ∃ fields st, users.readFields .sqlite = .ok fields ∧
      (planNewTable .sqlite {} "user" fields none).plan.create = some st ∧
      ((st.columnNames .sqlite).map Text.lowercase).Nodup) ∧
    (respelledUsers.errors .sqlite = [] ∧ Respells "ID" "id" ∧
      ∃ e log, (syncTable Sqlite.backend {} respelledUsers).run ⟨.empty, []⟩ =
        (.error (.backend e), ⟨.empty, log⟩)) := by
  have husers : users.errors .sqlite = [] := by decide +kernel
  have hrespelled : respelledUsers.errors .sqlite = [] := by decide +kernel
  have hletters : Respells "ID" "id" := by decide +kernel
  constructor
  · obtain ⟨fields, st, hread, hcreate, hnames, -, hiff, -⟩ :=
      distinct_columns_iff .sqlite {} users husers
    refine ⟨husers, fields, st, hread, hcreate, hiff.2 ?_⟩
    rw [hnames]
    decide +kernel
  · obtain ⟨fields, st, -, -, hnames, -, -, hrefused⟩ :=
      distinct_columns_iff .sqlite {} respelledUsers hrespelled
    refine ⟨hrespelled, hletters, hrefused rfl "ID" (by decide +kernel) "id" ?_ hletters
      ⟨.empty, []⟩ (by decide +kernel) rfl⟩
    rw [hnames]
    decide +kernel

/-- So a definition without errors can give a table one name twice. -/
theorem respelled_column_accepted :
    ¬∀ (d : Dialect) (o : Options) (t : Definition) (fields : List Field) (st : Statement),
      d = .mysql ∨ d = .sqlite → t.errors d = [] → t.readFields d = .ok fields →
        (planNewTable d o t.table fields t.comment).plan.create = some st →
          ((st.columnNames d).map Text.lowercase).Nodup := by
  intro hclaim
  have haccepted : respelledUsers.errors .sqlite = [] := by decide +kernel
  obtain ⟨fields, hread⟩ := readFields_of_errors haccepted
  have hnodup := hclaim .sqlite {} respelledUsers fields _ (.inr rfl) haccepted hread rfl
  rw [columnNames_createTable, keys_columns, keys_of_readFields hread] at hnodup
  exact absurd hnodup (by decide +kernel)

end Conform

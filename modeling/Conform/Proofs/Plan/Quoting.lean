/-
**The strings of a definition stay in their quotes.**

The statements of a plan are made of the strings of its definition: the name of the table, the keys,
labels and defaults of the fields, the comment, and the names of indexes, which join table and key.
Each of these is one quoted token wherever it stands, and none of them has a part in the tokens
outside the quotes.

Main definitions:

* `Field.clauses` — the clauses that a field can have;
* `Statement.Draws` — **that the strings of a statement are those of a definition**.

Main results:

* `draws_of_planLiveTable`, `draws_of_planNewTable` — the statements of plans are made of the
  strings of the definition;
* `quotes_plan` — **in the texts of a plan these strings stay in their quotes**.
-/

import Conform.Proofs.Plan.Convergence
import Conform.Proofs.Sql.Quotations

set_option relaxedAutoImplicit false
set_option autoImplicit false

namespace Conform

open Sql

variable {d : Dialect} {o : Options} {table : String} {s : Snapshot} {fields : List Field}

/-! ### Where the strings come from -/

/-- The clauses that a field can have. -/
def Field.clauses (d : Dialect) (f : Field) : List Clause :=
  [.addColumn (f.column d), .modifyColumn (f.column d), .alterType f.key (f.column d).type,
    .alterDefault f.key f.rule.default]

/-- **That the strings of a statement are those of a definition**, or of the columns that every
table has. -/
def Statement.Draws (d : Dialect) (table : String) (fields : List Field)
    (comment : Option String) : Statement → Prop
  | createTable t columns text =>
      t = table ∧ columns = fields.map (·.column d) ∧ text = comment
  | alterTable t clause => t = table ∧ ∃ f ∈ fields, clause ∈ f.clauses d
  | createIndex index t key =>
      t = table ∧ index = indexName table key ∧ (key ∈ systemIndexKeys ∨ ∃ f ∈ fields, f.key = key)
  | dropIndex index t => t = table ∧ ∃ f ∈ fields, index = indexName table f.key
  | commentTable t text => t = table ∧ comment = some text
  | commentColumn t key text =>
      t = table ∧ ((∃ c : SystemColumn, key = c.key ∧ text = c.label) ∨
        ∃ f ∈ fields, key = f.key ∧ text = f.rule.label)

theorem mem_clauses_of_retype? {f : Field} {k : Clause}
    (h : Clause.retype? d (f.column d) = some k) : k ∈ f.clauses d := by
  cases d with
  | mysql => cases h; simp [Field.clauses]
  | postgres => cases h; simp [Field.clauses]
  | sqlite => cases h

theorem draws_of_mem_indexChanges {comment : Option String} {a : IndexChange}
    (h : a ∈ indexChanges table s (fields.map (·.column d))) :
    (a.statement table).Draws d table fields comment := by
  obtain ⟨verb, index, key⟩ := a
  cases verb with
  | create =>
      obtain ⟨hname, -, hkey⟩ := create_mem_indexChanges_iff.1 h
      refine ⟨rfl, hname, hkey.imp And.left ?_⟩
      rintro ⟨c, hc, rfl, -⟩
      obtain ⟨f, hf, rfl⟩ := List.mem_map.1 hc
      exact ⟨f, hf, rfl⟩
  | drop =>
      obtain ⟨hname, ⟨c, hc, rfl, -⟩, -⟩ := drop_mem_indexChanges_iff.1 h
      obtain ⟨f, hf, rfl⟩ := List.mem_map.1 hc
      exact ⟨rfl, f, hf, hname⟩

/-- **The statements of a plan for an existing table are made of the strings of its fields.** -/
theorem draws_of_planLiveTable {p : Planned} (h : planLiveTable d o table fields s = .ok p)
    (comment : Option String) {st : Statement} (hst : st ∈ p.plan.statements) :
    st.Draws d table fields comment := by
  obtain ⟨a, hdraft, rfl⟩ := planLiveTable_eq_ok_iff.1 h
  rw [statements_planned, List.mem_append, List.mem_append] at hst
  rcases hst with (hst | hst) | hst
  · obtain ⟨k, hk, rfl⟩ := List.mem_map.1 hst
    obtain ⟨f, hf, b, hb, hk⟩ := clause_of_draftFields hdraft hk
    refine ⟨rfl, f, hf, ?_⟩
    rcases clause_of_draftField hb hk with ⟨-, rfl⟩ | ⟨-, hretype | rfl⟩
    · simp [Field.clauses]
    · exact mem_clauses_of_retype? hretype
    · simp [Field.clauses]
  · obtain ⟨c, hc, rfl⟩ := List.mem_map.1 hst
    exact draws_of_mem_indexChanges hc
  · obtain ⟨f, hf, rfl⟩ := comment_of_draftFields hdraft hst
    exact ⟨rfl, .inr ⟨f, hf, rfl, rfl⟩⟩

theorem draws_of_mem_createComments {comment : Option String} {st : Statement}
    (h : st ∈ createComments table (fields.map (·.column d)) comment) :
    st.Draws d table fields comment := by
  rcases mem_createComments h with ⟨text, hcomment, rfl⟩ | ⟨c, _, rfl⟩ | ⟨_, hc, rfl⟩
  · exact ⟨rfl, hcomment⟩
  · exact ⟨rfl, .inl ⟨c, rfl, rfl⟩⟩
  · obtain ⟨f, hf, rfl⟩ := List.mem_map.1 hc
    exact ⟨rfl, .inr ⟨f, hf, rfl, rfl⟩⟩

/-- **The statements of a plan for a new table are made of the strings of its definition.** -/
theorem draws_of_planNewTable {comment : Option String} {st : Statement}
    (h : st ∈ (planNewTable d o table fields comment).plan.statements) :
    st.Draws d table fields comment := by
  rw [statements_planNewTable, List.mem_cons, List.mem_append] at h
  rcases h with rfl | h | h
  · exact ⟨rfl, rfl, rfl⟩
  · split at h
    · exact draws_of_mem_createComments h
    · cases h
  · obtain ⟨a, ha, rfl⟩ := List.mem_map.1 h
    obtain ⟨key, hkey, rfl⟩ := List.mem_map.1 ha
    refine ⟨rfl, rfl, (mem_createIndexKeys_iff.1 hkey).imp_right ?_⟩
    rintro ⟨f, hf, rfl, -⟩
    exact ⟨f, hf, rfl⟩

/-! ### The texts of plans -/

/-- **The strings of a definition stay in their quotes.**  The texts of a plan, for a new table or
an existing one, are those of its statements.  These are made of the strings of the definition, and
in each of them the quoted tokens are these strings, whole, and the tokens outside the quotes are
those of its shape.  The texts that a MySQL configuration supplies must close their own quotes. -/
theorem quotes_plan (d : Dialect) (o : Options) (he : d = .mysql → o.engine.Closes)
    (table : String) (fields : List Field) (comment : Option String) (s : Snapshot) {p : Planned}
    (hplan : p = planNewTable d o table fields comment ∨
      planLiveTable d o table fields s = .ok p) :
    WrittenPlan.statements d o.engine (p.plan.write d o.engine) =
        p.plan.statements.map (·.write d o.engine) ∧
      ∀ st ∈ p.plan.statements,
        st.Draws d table fields comment ∧ ∃ ts, st.Quotes d o.engine ts := by
  refine ⟨TypedPlan.statements_write d o.engine p.plan, fun st hst => ⟨?_, _,
    quotes_statement he st⟩⟩
  rcases hplan with rfl | hlive
  · exact draws_of_planNewTable hst
  · exact draws_of_planLiveTable hlive comment hst

/-- A field whose strings are made to end quotes. -/
def quotingField : Field :=
  ⟨"a\x60b", ⟨"it's \\", .string, some ⟨false, 0⟩, some ⟨false, 20 * Binary64.one⟩,
    .text "\\'; --", true, none⟩⟩

/-- In the text that makes a table with such a field each of its strings is one token. -/
theorem quotes_quotingField :
    ∃ ts, scan .mysql (Statement.write .mysql (Options.engine {})
        (.createTable "x\x60y" [quotingField.column .mysql] (some "'"))) = some ts ∧
      ∀ t ∈ [Token.name "x\x60y", .name "a\x60b", .literal "\\'; --", .literal "it's \\",
        .literal "'"], t ∈ ts := by
  have hcloses : (Options.engine {}).Closes := by decide +kernel
  obtain ⟨-, hall⟩ := quotes_plan .mysql {} (fun _ => hcloses) "x\x60y" [quotingField] (some "'")
    ⟨∅, ∅⟩ (.inl rfl)
  obtain ⟨-, ts, hquotes⟩ := hall _ (List.mem_cons_self ..)
  refine ⟨ts, hquotes.read, fun t ht => ?_⟩
  have hinside : t ∈ ts.filter Token.isQuoted := by
    rw [hquotes.inside]
    revert t
    decide +kernel
  exact (List.mem_filter.1 hinside).1

end Conform

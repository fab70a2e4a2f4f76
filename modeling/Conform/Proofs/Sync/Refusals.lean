/-
**When a change of type is refused.**

A plan for an existing table is refused exactly when the live type of a declared column conflicts
with the type of its field: the two are not the same type, they are not both bounded strings, and
the dialect does not widen the one to the other.  The refusal names the first such field.  The sync
of the table then ends with the refusal, and nothing was executed or shown.

Main definitions:

* `Conflicts` — that a live type cannot become a wanted one;
* `FirstConflict` — the refusal that names the first field in conflict.

Main results:

* `planLiveTable_eq_error_iff` — **a plan is refused at the first conflict**;
* `run_syncTable_of_refused` — a refused sync asks its three questions and ends;
* `refused_iff_conflicts` — **both together, for every backend that reports the snapshot**.
-/

import Conform.Proofs.Plan.Drafting
import Conform.Proofs.Sync.Parity

set_option relaxedAutoImplicit false
set_option autoImplicit false

namespace Conform

open Session

variable {d : Dialect} {o : Options} {table : String} {s : Snapshot}

/-! ### Conflicts -/

/-- **That a live type cannot become a wanted one**: it is another type, they are not both bounded
strings, and it is not widened under PostgreSQL. -/
def Conflicts (d : Dialect) (liveType : String) (wanted : Storage) : Prop :=
  TypeName.same liveType wanted.keyword = false ∧
    ¬(TypeName.isString liveType = true ∧ TypeName.isString wanted.keyword = true) ∧
    ¬(d = .postgres ∧ TypeName.widens liveType wanted.keyword = true)

instance (d : Dialect) (liveType : String) (wanted : Storage) :
    Decidable (Conflicts d liveType wanted) :=
  inferInstanceAs (Decidable (_ ∧ _))

theorem gate_eq_refused_iff {liveType : String} {wanted : Storage} :
    gate d liveType wanted = .refused ↔ Conflicts d liveType wanted := by
  unfold gate Conflicts
  cases TypeName.same liveType wanted.keyword <;> cases TypeName.isString liveType <;>
    cases TypeName.isString wanted.keyword <;> cases TypeName.widens liveType wanted.keyword <;>
    cases d <;> decide

/-- The live column of a field, if the field is in conflict with it. -/
def Field.Clashes (d : Dialect) (s : Snapshot) (f : Field) (live : LiveColumn) : Prop :=
  s.columns[f.key]? = some live ∧ Conflicts d live.type (f.rule.kind.storage d)

/-- **The refusal that names the first field in conflict**, with its live type and its own. -/
def FirstConflict (d : Dialect) (table : String) (s : Snapshot) (fields : List Field)
    (r : TypeRefusal) : Prop :=
  ∃ before f after live, fields = before ++ f :: after ∧
    (∀ g ∈ before, ∀ live', ¬g.Clashes d s live') ∧ f.Clashes d s live ∧
    r = ⟨table, f.key, live.type, (f.rule.kind.storage d).keyword⟩

/-! ### Plans -/

/-- A field is refused exactly when it is in conflict. -/
theorem draftField_eq_error_iff {f : Field} {r : TypeRefusal} :
    draftField d o table s f = .error r ↔
      ∃ live, f.Clashes d s live ∧
        r = ⟨table, f.key, live.type, (f.rule.kind.storage d).keyword⟩ := by
  unfold Field.Clashes
  cases hlive : s.columns[f.key]? with
  | none => simp [draftField_of_none hlive]
  | some live =>
      have hstorage : (f.column d).type.storage = f.rule.kind.storage d := rfl
      rw [draftField_of_some hlive, hstorage]
      simp only [Option.some.injEq, gate_eq_refused_iff]
      split
      next hconflict =>
        constructor
        · intro h
          cases h
          exact ⟨live, ⟨rfl, hconflict⟩, rfl⟩
        · rintro ⟨_, ⟨rfl, -⟩, rfl⟩
          rfl
      next hfree =>
        constructor
        · intro h
          cases h
        · rintro ⟨_, ⟨rfl, hconflict⟩, -⟩
          exact absurd hconflict hfree

theorem draftField_ok_of_free {f : Field} (h : ∀ live, ¬f.Clashes d s live) :
    ∃ a, draftField d o table s f = .ok a := by
  cases hf : draftField d o table s f with
  | ok a => exact ⟨a, rfl⟩
  | error r =>
      obtain ⟨live, hclash, -⟩ := draftField_eq_error_iff.1 hf
      exact absurd hclash (h live)

theorem draftFields_eq_error_iff {fields : List Field} {r : TypeRefusal} :
    draftFields d o table s fields = .error r ↔ FirstConflict d table s fields r := by
  unfold FirstConflict
  induction fields with
  | nil => simp [draftFields]
  | cons f fs ih =>
      -- the refusal is that of the first field, or the first is drafted and it is a later one's
      simp only [draftFields]
      constructor
      · intro h
        cases hf : draftField d o table s f with
        | error r' =>
            rw [hf] at h
            obtain ⟨live, hclash, rfl⟩ := draftField_eq_error_iff.1 hf
            cases h
            exact ⟨[], f, fs, live, rfl, by simp, hclash, rfl⟩
        | ok a =>
            rw [hf] at h
            cases hfs : draftFields d o table s fs with
            | ok b => rw [hfs] at h; cases h
            | error r' =>
                rw [hfs] at h
                cases h
                obtain ⟨before, g, after, live, rfl, hbefore, hclash, rfl⟩ := ih.1 hfs
                refine ⟨f :: before, g, after, live, rfl, fun g' hg' live' hclash' => ?_, hclash,
                  rfl⟩
                rcases List.mem_cons.1 hg' with rfl | hg'
                · rw [draftField_eq_error_iff.2 ⟨live', hclash', rfl⟩] at hf
                  cases hf
                · exact hbefore g' hg' live' hclash'
      · rintro ⟨before, g, after, live, hsplit, hbefore, hclash, rfl⟩
        cases before with
        | nil =>
            obtain ⟨rfl, rfl⟩ := List.cons.inj hsplit
            rw [draftField_eq_error_iff.2 ⟨live, hclash, rfl⟩]
        | cons g' before =>
            obtain ⟨rfl, rfl⟩ := List.cons.inj hsplit
            obtain ⟨a, ha⟩ : ∃ a, draftField d o table s f = .ok a :=
              draftField_ok_of_free (hbefore _ (List.mem_cons_self ..))
            have hrest := ih.2 ⟨before, g, after, live, rfl,
              fun g'' hg'' => hbefore g'' (List.mem_cons_of_mem _ hg''), hclash, rfl⟩
            rw [ha, hrest]

/-- **A plan is refused at the first conflict.** -/
theorem planLiveTable_eq_error_iff {fields : List Field} {r : TypeRefusal} :
    planLiveTable d o table fields s = .error r ↔ FirstConflict d table s fields r := by
  rw [← draftFields_eq_error_iff (o := o)]
  unfold planLiveTable
  cases draftFields d o table s fields <;> simp

/-- A plan is refused exactly when some field is in conflict. -/
theorem planLiveTable_refused_iff {fields : List Field} :
    (∃ r, planLiveTable d o table fields s = .error r) ↔
      ∃ f ∈ fields, ∃ live, f.Clashes d s live := by
  constructor
  · rintro ⟨r, hr⟩
    obtain ⟨before, f, after, live, rfl, -, hclash, -⟩ := planLiveTable_eq_error_iff.1 hr
    exact ⟨f, List.mem_append_right _ (List.mem_cons_self ..), live, hclash⟩
  · rintro ⟨f, hf, live, hclash⟩
    cases hplan : planLiveTable d o table fields s with
    | error r => exact ⟨r, rfl⟩
    | ok p =>
        -- no field of a plan is refused, and this one would be
        obtain ⟨a, hdraft, -⟩ := planLiveTable_eq_ok_iff.1 hplan
        obtain ⟨b, hb⟩ := draftField_of_draftFields hdraft hf
        rw [draftField_eq_error_iff.2 ⟨live, hclash, rfl⟩] at hb
        cases hb

/-! ### Syncs -/

/-- **That a backend reports a snapshot of a table**, and the state that it is in after the three
questions about it. -/
def Backend.Reports {σ : Type} (b : Backend σ) (table : String) (s : Snapshot)
    (state asked : σ) : Prop :=
  ∃ state₁ state₂, b.tableExists table state = (.ok true, state₁) ∧
    b.columns table state₁ = (.ok s.columns, state₂) ∧
    b.indexes table state₂ = (.ok s.indexes, asked)

/-- A script without faults of its questions reports the tables that it has. -/
theorem Script.reports {script : Script} (htable : script.tables table = some s)
    (hexists : script.tableExistsFault table = none) (hcolumns : script.columnsFault table = none)
    (hindexes : script.indexesFault table = none) (trace : List Call) :
    (script.backend d).Reports table s trace
      (trace ++ [.tableExists table] ++ [.columns table] ++ [.indexes table]) := by
  refine ⟨trace ++ [.tableExists table], trace ++ [.tableExists table] ++ [.columns table],
    ?_, ?_, ?_⟩
  · simp only [Script.backend, hexists, htable]
    rfl
  · simp only [Script.backend, hcolumns, htable]
    rfl
  · simp only [Script.backend, hindexes, htable]
    rfl

/-- **A refused sync asks its three questions and ends.**  All that it logs is about the
planning. -/
theorem run_syncTable_of_refused {σ : Type} {b : Backend σ} {t : Definition} {fields : List Field}
    {r : TypeRefusal} {j : Journal σ} {asked : σ} (hread : t.readFields b.dialect = .ok fields)
    (hreports : b.Reports t.table s j.state asked)
    (hplan : planLiveTable b.dialect o t.table fields s = .error r) :
    ∃ planned, (∀ e ∈ planned, e.origin = .planning) ∧
      (syncTable b o t).run j = (.error (.typeChange r), ⟨asked, j.log ++ planned⟩) := by
  obtain ⟨state₁, state₂, hexists, hcolumns, hindexes⟩ := hreports
  let greeting : Log := [⟨.debug, .planning,
    s!"{t.table}: {s.columns.size} columns, {s.indexes.size} indexes introspected"⟩]
  refine ⟨greeting ++ liveTableLog b.dialect o t.table fields s, fun e he => ?_, ?_⟩
  · rcases List.mem_append.1 he with he | he
    · rw [List.mem_singleton.1 he]
    · exact origin_liveTableLog he
  · have hplanned : (planTable b o t fields).run j =
        (.error (.typeChange r),
          ⟨asked, j.log ++ (greeting ++ liveTableLog b.dialect o t.table fields s)⟩) := by
      rw [planTable, run_bind_ok (run_ask_ok hexists), if_pos rfl,
        run_bind_ok (run_ask_ok hcolumns), run_bind_ok (run_ask_ok hindexes),
        run_bind_ok (run_note _ _), run_bind_ok (run_note _ _), run_settle, hplan,
        ← List.append_assoc]
      rfl
    rw [syncTable, run_bind_ok (run_read hread j), run_bind_error hplanned]

/-- **The gate for changes of type is exact.**  A plan for an existing table is refused exactly when
a declared field is in conflict with its live column, the refusal names the first of them, and the
sync ends with it in the state after its questions: nothing was executed, whether statements were to
be sent or shown. -/
theorem refused_iff_conflicts (d : Dialect) (o : Options) (t : Definition) (s : Snapshot)
    {fields : List Field} (hread : t.readFields d = .ok fields) :
    ((∃ r, planLiveTable d o t.table fields s = .error r) ↔
      ∃ f ∈ fields, ∃ live, f.Clashes d s live) ∧
    ∀ r, planLiveTable d o t.table fields s = .error r →
      FirstConflict d t.table s fields r ∧
      ∀ (σ : Type) (b : Backend σ) (j : Journal σ) (asked : σ), b.dialect = d →
        b.Reports t.table s j.state asked →
          ∃ planned, (∀ e ∈ planned, e.origin = .planning) ∧
            (syncTable b o t).run j = (.error (.typeChange r), ⟨asked, j.log ++ planned⟩) := by
  refine ⟨planLiveTable_refused_iff, fun r hr => ⟨planLiveTable_eq_error_iff.1 hr, ?_⟩⟩
  rintro σ b j asked rfl hreports
  exact run_syncTable_of_refused hread hreports hr

/-- Users with their addresses and their ages. -/
def agedUsers : Definition :=
  ⟨"user", none, [("email", "mail|string|0|20|null|0|null"), ("age", "age|number|0|200|18|0|null")]⟩

/-- The age of a user. -/
def ageField : Field :=
  ⟨"age", ⟨"age", .number, some ⟨false, 0⟩, some ⟨false, 200 * Binary64.one⟩, .number 18, false,
    none⟩⟩

/-- Users whose addresses are too short and whose ages are texts, as MySQL reports them. -/
def writtenAges : Snapshot :=
  let address : LiveColumn := ⟨"varchar", some 10, true, none, none⟩
  let age : LiveColumn := ⟨"VARCHAR(3)", some 3, true, none, none⟩
  ⟨Std.ExtTreeMap.ofList [("email", address), ("age", age)], ∅⟩

/-- Such ages do not become numbers, and the addresses are left as they are too. -/
theorem refused_ages :
    agedUsers.readFields .mysql = .ok [addressField, ageField] ∧
      ∃ planned, (∀ e ∈ planned, e.origin = .planning) ∧
        (syncTable (Script.backend .mysql { tables := fun _ => some writtenAges }) {} agedUsers).run
            ⟨[], []⟩ =
          (.error (.typeChange ⟨"user", "age", "VARCHAR(3)", "BIGINT"⟩),
            ⟨[.tableExists "user", .columns "user", .indexes "user"], planned⟩) := by
  have hread : agedUsers.readFields .mysql = .ok [addressField, ageField] :=
    eq_ok_of_toOption (by decide +kernel)
  have haddress : writtenAges.columns["email"]? = some ⟨"varchar", some 10, true, none, none⟩ := by
    decide +kernel
  have hplan : planLiveTable .mysql {} "user" [addressField, ageField] writtenAges =
      .error ⟨"user", "age", "VARCHAR(3)", "BIGINT"⟩ := by
    refine planLiveTable_eq_error_iff.2 ⟨[addressField], ageField, [], _, rfl, ?_, ⟨rfl, ?_⟩, rfl⟩
    · rintro g hg live' ⟨hlive, hconflict⟩
      rw [List.mem_singleton.1 hg] at hlive hconflict
      obtain rfl := Option.some.inj (haddress.symm.trans hlive)
      exact absurd hconflict (by decide +kernel)
    · decide +kernel
  exact ⟨hread, ((refused_iff_conflicts .mysql {} agedUsers writtenAges hread).2 _ hplan).2 _ _
    ⟨[], []⟩ _ rfl (Script.reports rfl rfl rfl rfl [])⟩

end Conform

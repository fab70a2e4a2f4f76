/-
**When indexes of two tables have the same name.**

The name of an index joins the name of its table and the key of its column with an underscore, and
both may hold underscores themselves.  So a name can be split in more than one way: a column of the
one table and a column of the other have the same index exactly when the name of the other table
goes on after that of the first, and the key of the first column begins with the rest of it.

Main definitions:

* `Overlaps` — that a column of a longer table name takes up the key of another;
* `Planned.newIndexes` — the names of the indexes that a plan makes.

Main results:

* `indexName_eq_iff` — **when two index names are the same**;
* `newIndexes_meet_iff` — **when the plans for two new tables make an index of the same name**.
-/

import Conform.Proofs.Plan.Indexes

set_option relaxedAutoImplicit false
set_option autoImplicit false

namespace Conform

variable {d : Dialect} {o : Options} {table key table' key' : String}

/-! ### Names that split in two ways -/

/-- **That the name of a table goes on after that of another**, and that what it goes on with begins
the key of a column there. -/
def Overlaps (table key table' key' : String) : Prop :=
  ∃ rest, table' = table ++ "_" ++ rest ∧ key = rest ++ "_" ++ key'

theorem indexName_of_overlaps (h : Overlaps table key table' key') :
    indexName table key = indexName table' key' := by
  obtain ⟨rest, rfl, rfl⟩ := h
  refine String.ext ?_
  simp only [toList_indexName, String.toList_append, List.append_assoc]

/-- A name that is split further to the right has a longer table name. -/
theorem overlaps_of_append {more : List Char} (htable : table'.toList = table.toList ++ more)
    (hkey : '_' :: key.toList = more ++ '_' :: key'.toList) :
    (table = table' ∧ key = key') ∨ Overlaps table key table' key' := by
  cases more with
  | nil =>
      rw [List.append_nil] at htable
      exact .inl ⟨String.ext htable.symm, String.ext (List.cons.inj hkey).2⟩
  | cons c rest =>
      obtain ⟨rfl, htail⟩ := List.cons.inj hkey
      refine .inr ⟨String.ofList rest, String.ext ?_, String.ext ?_⟩
      · rw [htable]
        simp
      · rw [htail]
        simp

/-- **When two index names are the same.** -/
theorem indexName_eq_iff :
    indexName table key = indexName table' key' ↔
      (table = table' ∧ key = key') ∨ Overlaps table key table' key' ∨
        Overlaps table' key' table key := by
  constructor
  · intro h
    have hlist := congrArg String.toList h
    rw [toList_indexName, toList_indexName, List.append_assoc, List.append_assoc, List.append_assoc,
      List.append_assoc] at hlist
    -- after the common beginning, one of the tables ends first
    rcases List.append_eq_append_iff.1 (List.append_cancel_left hlist) with
      ⟨more, htable, hkey⟩ | ⟨more, htable, hkey⟩
    · exact (overlaps_of_append htable hkey).imp_right .inl
    · rcases overlaps_of_append htable hkey with ⟨hsame, hsame'⟩ | hoverlaps
      · exact .inl ⟨hsame.symm, hsame'.symm⟩
      · exact .inr (.inr hoverlaps)
  · rintro (⟨rfl, rfl⟩ | hoverlaps | hoverlaps)
    · rfl
    · exact indexName_of_overlaps hoverlaps
    · exact (indexName_of_overlaps hoverlaps).symm

/-! ### The indexes of new tables -/

/-- **The names of the indexes that a plan makes.** -/
def Planned.newIndexes (p : Planned) : List String :=
  (p.plan.indexes.filter (·.verb = .create)).map (·.index)

/-- A new table has an index for each key that gets one. -/
theorem mem_newIndexes_iff {fields : List Field} {comment : Option String} {name : String} :
    name ∈ (planNewTable d o table fields comment).newIndexes ↔
      ∃ key ∈ createIndexKeys (fields.map (·.column d)), name = indexName table key := by
  simp only [Planned.newIndexes, planNewTable_indexes, List.mem_map, List.mem_filter]
  constructor
  · rintro ⟨_, ⟨⟨key, hkey, rfl⟩, -⟩, rfl⟩
    exact ⟨key, hkey, rfl⟩
  · rintro ⟨key, hkey, rfl⟩
    exact ⟨_, ⟨⟨key, hkey, rfl⟩, rfl⟩, rfl⟩

/-- **When the plans for two new tables make an index of the same name**, where the definitions have
no errors and the tables have different names.  The name of one table goes on after that of the
other; what it goes on with begins the key of a column there that is indexed, and the rest of that
key is a column here that is indexed. -/
theorem newIndexes_meet_iff (o o' : Options) {t t' : Definition} (ht : t.errors d = [])
    (ht' : t'.errors d = []) (hne : t.table ≠ t'.table) :
    ∃ fields fields', t.readFields d = .ok fields ∧ t'.readFields d = .ok fields' ∧ ∀ name,
      (name ∈ (planNewTable d o t.table fields t.comment).newIndexes ∧
        name ∈ (planNewTable d o' t'.table fields' t'.comment).newIndexes) ↔
      ∃ key ∈ createIndexKeys (fields.map (·.column d)),
        ∃ key' ∈ createIndexKeys (fields'.map (·.column d)), name = indexName t.table key ∧
          (Overlaps t.table key t'.table key' ∨ Overlaps t'.table key' t.table key) := by
  obtain ⟨fields, hfields⟩ := readFields_of_errors ht
  obtain ⟨fields', hfields'⟩ := readFields_of_errors ht'
  refine ⟨fields, fields', hfields, hfields', fun name => ?_⟩
  rw [mem_newIndexes_iff, mem_newIndexes_iff]
  constructor
  · rintro ⟨⟨key, hkey, rfl⟩, key', hkey', hsame⟩
    refine ⟨key, hkey, key', hkey', rfl, ?_⟩
    rcases indexName_eq_iff.1 hsame with ⟨htable, -⟩ | hoverlaps
    · exact absurd htable hne
    · exact hoverlaps
  · rintro ⟨key, hkey, key', hkey', rfl, hoverlaps⟩
    exact ⟨⟨key, hkey, rfl⟩, key', hkey', indexName_eq_iff.2 (.inr hoverlaps)⟩

/-- Users with the state of their profile, which is indexed. -/
def profiledUsers : Definition :=
  ⟨"user", none, [("profile_state", "s|string|0|20|null|1|null")]⟩

/-- The profiles of users. -/
def profiles : Definition := ⟨"user_profile", none, []⟩

/-- The state of the profile of a user. -/
def profileState : Field :=
  ⟨"profile_state", ⟨"s", .string, some ⟨false, 0⟩, some ⟨false, 20 * Binary64.one⟩, .absent, true,
    none⟩⟩

theorem readFields_profiledUsers :
    profiledUsers.readFields .sqlite = .ok [profileState] ∧
      profiles.readFields .sqlite = .ok [] :=
  ⟨eq_ok_of_toOption (by decide +kernel), rfl⟩

/-- The index of the states of profiles has the same name for both tables. -/
theorem newIndexes_meet_users :
    "idx_user_profile_state" ∈
        (planNewTable .sqlite {} "user" [profileState] none).newIndexes ∧
      "idx_user_profile_state" ∈ (planNewTable .sqlite {} "user_profile" [] none).newIndexes := by
  have ht : profiledUsers.errors .sqlite = [] := by decide +kernel
  have ht' : profiles.errors .sqlite = [] := by decide +kernel
  obtain ⟨fields, fields', hread, hread', hmeet⟩ :=
    newIndexes_meet_iff {} {} ht ht' (by decide +kernel)
  rw [readFields_profiledUsers.1] at hread
  rw [readFields_profiledUsers.2] at hread'
  cases hread
  cases hread'
  exact (hmeet _).2 ⟨"profile_state", by decide +kernel, "state", by decide +kernel,
    by decide +kernel, .inl ⟨"profile", by decide +kernel, by decide +kernel⟩⟩

/-- **Indexes of new tables of different names can have the same name.** -/
theorem newIndexes_not_disjoint :
    ¬ ∀ (d : Dialect) (o : Options) (t t' : Definition) (fields fields' : List Field),
        t.errors d = [] → t'.errors d = [] → t.table ≠ t'.table →
          t.readFields d = .ok fields → t'.readFields d = .ok fields' →
            ∀ name ∈ (planNewTable d o t.table fields t.comment).newIndexes,
              name ∉ (planNewTable d o t'.table fields' t'.comment).newIndexes := by
  intro hclaim
  have hdisjoint := hclaim .sqlite {} profiledUsers profiles [profileState] [] (by decide +kernel)
    (by decide +kernel) (by decide +kernel) readFields_profiledUsers.1 readFields_profiledUsers.2
    "idx_user_profile_state" (by decide +kernel)
  exact hdisjoint (by decide +kernel)

end Conform

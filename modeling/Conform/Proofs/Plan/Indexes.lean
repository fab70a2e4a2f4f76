/-
**The index changes of a plan.**

Every index change of a plan is named for its column, and no column has two of them: the keys of
fields differ among themselves and from those of system columns.  So once the changes are made, no
further one is wanted.

Main results:

* `indexName_inj` — the index names of a table differ when their columns do;
* `indexChanges_congr` — what the index changes look at;
* `indexChanges_nodup` — **no two index changes of a plan have the same name**;
* `fieldIndexChange?_eq_some_iff` — **when an index is made, and when it is dropped**;
* `create_mem_indexChanges_iff`, `drop_mem_indexChanges_iff` — which indexes a plan makes and drops;
* `indexes_applyAll_iff` — **which indexes are there after the changes**;
* `indexChanges_of_applied` — **after the changes no index change is wanted**.
-/

import Conform.Proofs.Plan.Effect

set_option relaxedAutoImplicit false
set_option autoImplicit false

namespace Conform

variable {d : Dialect} {table : String} {s : Snapshot}

/-! ### Names -/

theorem toList_indexName (table key : String) :
    (indexName table key).toList = "idx_".toList ++ table.toList ++ "_".toList ++ key.toList := by
  simp [indexName, toString]

/-- **The index names of a table differ when their columns do.** -/
theorem indexName_inj {key key' : String} (h : indexName table key = indexName table key') :
    key = key' := by
  have hlist := congrArg String.toList h
  rw [toList_indexName, toList_indexName] at hlist
  exact String.ext (List.append_cancel_left hlist)

/-! ### The keys of index changes -/

theorem contains_iff {α : Type} {m : NameMap α} {name : String} :
    m.contains name = m[name]?.isSome := Std.ExtTreeMap.contains_eq_isSome_getElem?

/-- A system column misses its index if the column is there and the index is not reported. -/
theorem missesIndex_iff {key : String} :
    missesIndex table s key = true ↔
      s.columns.contains key = true ∧ s.indexes.contains (indexName table key) = false := by
  rw [missesIndex, Bool.and_eq_true, Bool.not_eq_true']

theorem missesIndex_congr {s' : Snapshot} {key : String}
    (hcolumn : s'.columns.contains key = s.columns.contains key)
    (hindex : s'.indexes[indexName table key]? = s.indexes[indexName table key]?) :
    missesIndex table s' key = missesIndex table s key := by
  rw [missesIndex, missesIndex, hcolumn, contains_iff (m := s'.indexes),
    contains_iff (m := s.indexes), hindex]

theorem systemIndexChanges_congr {s' : Snapshot}
    (hcolumns : ∀ key ∈ systemIndexKeys, s'.columns.contains key = s.columns.contains key)
    (hindexes : ∀ key ∈ systemIndexKeys,
      s'.indexes[indexName table key]? = s.indexes[indexName table key]?) :
    systemIndexChanges table s' = systemIndexChanges table s := by
  rw [systemIndexChanges, systemIndexChanges]
  refine congrArg _ (List.filter_congr fun key hkey => ?_)
  exact missesIndex_congr (hcolumns key hkey) (hindexes key hkey)

/-- **What the index changes look at**: the indexes, and which system columns are there. -/
theorem indexChanges_congr {s' : Snapshot} (hindexes : s'.indexes = s.indexes)
    (hcolumns : ∀ key ∈ systemIndexKeys, s'.columns.contains key = s.columns.contains key)
    (columns : List Column) : indexChanges table s' columns = indexChanges table s columns := by
  have hsystem : systemIndexChanges table s' = systemIndexChanges table s :=
    systemIndexChanges_congr hcolumns fun key _ => by rw [hindexes]
  have hfield : fieldIndexChange? table s' = fieldIndexChange? table s := by
    funext c
    simp only [fieldIndexChange?, indexVerb?, hindexes]
  rw [indexChanges, indexChanges, hsystem, fieldIndexChanges, fieldIndexChanges, hfield]

/-- **When an index is made, and when it is dropped**: an index that is wanted is made unless one
of its name is reported, and one that is not wanted is dropped if it is reported to cover the
column of the field only. -/
theorem fieldIndexChange?_eq_some_iff {c : Column} {a : IndexChange} :
    fieldIndexChange? table s c = some a ↔
      (a = createIndexOf table c.key ∧ c.indexed = true ∧
        s.indexes[indexName table c.key]? = none) ∨
      (a = dropIndexOf table c.key ∧ c.indexed = false ∧
        s.indexes[indexName table c.key]? = some [c.key]) := by
  unfold fieldIndexChange? indexVerb? Snapshot.coversOnly
  rw [contains_iff]
  cases c.indexed with
  | true => cases s.indexes[indexName table c.key]? <;> simp [createIndexOf, eq_comm (b := a)]
  | false =>
      cases s.indexes[indexName table c.key]? with
      | none => simp
      | some keys => by_cases h : keys = [c.key] <;> simp [h, dropIndexOf, eq_comm (b := a)]

theorem fieldIndexChange?_eq_none_iff {c : Column} :
    fieldIndexChange? table s c = none ↔
      (c.indexed = true → s.indexes[indexName table c.key]? ≠ none) ∧
      (c.indexed = false → s.indexes[indexName table c.key]? ≠ some [c.key]) := by
  unfold fieldIndexChange? indexVerb? Snapshot.coversOnly
  rw [contains_iff]
  cases c.indexed <;> cases s.indexes[indexName table c.key]? <;> simp

/-- An index change of a field is about the column of the field, by the name of its index. -/
theorem of_fieldIndexChange? {c : Column} {a : IndexChange}
    (h : fieldIndexChange? table s c = some a) :
    a.key = c.key ∧ a.index = indexName table c.key := by
  rcases fieldIndexChange?_eq_some_iff.1 h with ⟨rfl, _⟩ | ⟨rfl, _⟩ <;> exact ⟨rfl, rfl⟩

/-- Every index change is named for its column. -/
theorem index_of_mem_indexChanges {columns : List Column} {a : IndexChange}
    (h : a ∈ indexChanges table s columns) : a.index = indexName table a.key := by
  rcases List.mem_append.1 h with h | h
  · obtain ⟨key, _, rfl⟩ := List.mem_map.1 h
    rfl
  · obtain ⟨c, _, hc⟩ := List.mem_filterMap.1 h
    obtain ⟨hkey, hindex⟩ := of_fieldIndexChange? hc
    rw [hindex, hkey]

/-- **Which indexes are dropped**: those that are reported to cover the column of a field only, and
are not wanted. -/
theorem drop_mem_indexChanges_iff {columns : List Column} {n key : String} :
    (⟨.drop, n, key⟩ : IndexChange) ∈ indexChanges table s columns ↔
      n = indexName table key ∧ (∃ c ∈ columns, c.key = key ∧ c.indexed = false) ∧
        s.indexes[n]? = some [key] := by
  rw [indexChanges, List.mem_append, fieldIndexChanges, List.mem_filterMap]
  constructor
  · rintro (hsystem | ⟨c, hc, hchange⟩)
    · obtain ⟨_, -, hverb⟩ := List.mem_map.1 hsystem
      cases hverb
    · rcases fieldIndexChange?_eq_some_iff.1 hchange with ⟨hverb, -⟩ | ⟨hdrop, hindexed, hindex⟩
      · cases hverb
      · cases hdrop
        exact ⟨rfl, ⟨c, hc, rfl, hindexed⟩, hindex⟩
  · rintro ⟨rfl, ⟨c, hc, rfl, hindexed⟩, hindex⟩
    exact .inr ⟨c, hc, fieldIndexChange?_eq_some_iff.2 (.inr ⟨rfl, hindexed, hindex⟩)⟩

/-- **Which indexes are made**: those of system columns that are there and those of wanted columns,
where none of the name is reported. -/
theorem create_mem_indexChanges_iff {columns : List Column} {n key : String} :
    (⟨.create, n, key⟩ : IndexChange) ∈ indexChanges table s columns ↔
      n = indexName table key ∧ s.indexes[n]? = none ∧
        ((key ∈ systemIndexKeys ∧ s.columns.contains key = true) ∨
          ∃ c ∈ columns, c.key = key ∧ c.indexed = true) := by
  rw [indexChanges, List.mem_append, systemIndexChanges, fieldIndexChanges, List.mem_map,
    List.mem_filterMap]
  constructor
  · rintro (⟨k, hk, hmade⟩ | ⟨c, hc, hchange⟩)
    · cases hmade
      obtain ⟨hkey, hwanted⟩ := List.mem_filter.1 hk
      obtain ⟨hcolumn, hindex⟩ := missesIndex_iff.1 hwanted
      refine ⟨rfl, ?_, .inl ⟨hkey, hcolumn⟩⟩
      rwa [contains_iff, Option.isSome_eq_false_iff, Option.isNone_iff_eq_none] at hindex
    · rcases fieldIndexChange?_eq_some_iff.1 hchange with ⟨hmade, hindexed, hnone⟩ | ⟨hverb, -⟩
      · cases hmade
        exact ⟨rfl, hnone, .inr ⟨c, hc, rfl, hindexed⟩⟩
      · cases hverb
  · rintro ⟨rfl, hnone, ⟨hkey, hcolumn⟩ | ⟨c, hc, rfl, hindexed⟩⟩
    · refine .inl ⟨key, List.mem_filter.2 ⟨hkey, missesIndex_iff.2 ⟨hcolumn, ?_⟩⟩, rfl⟩
      rw [contains_iff, hnone]
      rfl
    · exact .inr ⟨c, hc, fieldIndexChange?_eq_some_iff.2 (.inl ⟨rfl, hindexed, hnone⟩)⟩

theorem keys_fieldIndexChanges (columns : List Column) :
    ((fieldIndexChanges table s columns).map (·.key)).Sublist (columns.map (·.key)) := by
  induction columns with
  | nil => exact List.Sublist.refl _
  | cons c columns ih =>
      unfold fieldIndexChanges at ih ⊢
      rw [List.filterMap_cons]
      cases hc : fieldIndexChange? table s c with
      | none => exact ih.cons _
      | some a =>
          rw [List.map_cons, List.map_cons, (of_fieldIndexChange? hc).1]
          exact ih.cons_cons _

theorem keys_systemIndexChanges :
    ((systemIndexChanges table s).map (·.key)).Sublist systemIndexKeys := by
  have hkeys : (systemIndexChanges table s).map (·.key) =
      systemIndexKeys.filter (missesIndex table s) := by
    rw [systemIndexChanges, List.map_map]
    exact List.map_id _
  rw [hkeys]
  exact List.filter_sublist

/-- **The keys of a new table that get an index**: some system columns, and what is declared so. -/
theorem mem_createIndexKeys_iff {fields : List Field} {key : String} :
    key ∈ createIndexKeys (fields.map (·.column d)) ↔
      key ∈ systemIndexKeys ∨ ∃ f ∈ fields, f.key = key ∧ f.rule.indexed = true := by
  rw [createIndexKeys, List.mem_append]
  refine or_congr_right ?_
  simp only [List.mem_map, List.mem_filter]
  constructor
  · rintro ⟨c, ⟨⟨f, hf, rfl⟩, hindexed⟩, rfl⟩
    exact ⟨f, hf, rfl, hindexed⟩
  · rintro ⟨f, hf, rfl, hindexed⟩
    exact ⟨f.column d, ⟨⟨f, hf, rfl⟩, hindexed⟩, rfl⟩

theorem systemIndexKeys_subset : systemIndexKeys ⊆ reservedKeys := by
  intro key hkey
  revert key
  decide

/-- **The columns that can have an index change are different.** -/
theorem indexKeys_nodup {fields : List Field} (h : Declared d fields) :
    (systemIndexKeys ++ (fields.map (·.column d)).map (·.key)).Nodup := by
  rw [keys_columns, List.nodup_append]
  refine ⟨by decide, h.distinct, fun key hkey key' hkey' e => ?_⟩
  obtain ⟨f, hf, rfl⟩ := List.mem_map.1 hkey'
  exact h.free f hf (e ▸ systemIndexKeys_subset hkey)

/-- Of index changes that are named for different columns no two have the same name. -/
theorem indexes_nodup_of_keys (table : String) {changes : List IndexChange}
    (hnamed : ∀ a ∈ changes, a.index = indexName table a.key)
    (hkeys : (changes.map (·.key)).Nodup) : (changes.map (·.index)).Nodup := by
  have hmap : changes.map (·.index) = (changes.map (·.key)).map (indexName table) := by
    rw [List.map_map]
    exact List.map_congr_left hnamed
  rw [hmap]
  exact List.Pairwise.map _ (fun _ _ hne e => hne (indexName_inj e)) hkeys

/-- **No two index changes of a plan have the same name.** -/
theorem indexChanges_nodup {fields : List Field} (h : Declared d fields) :
    ((indexChanges table s (fields.map (·.column d))).map (·.index)).Nodup := by
  refine indexes_nodup_of_keys table (fun a ha => index_of_mem_indexChanges ha) ?_
  rw [indexChanges, List.map_append]
  exact (indexKeys_nodup h).sublist (keys_systemIndexChanges.append (keys_fieldIndexChanges _))

/-! ### After the changes -/

/-- **Which indexes are there after the changes**: those that were there and are not dropped, and
those that are made. -/
theorem indexes_applyAll_iff (r : Reporting) (table : String) {fields : List Field}
    (h : Declared d fields) {name : String} {columns : List String} :
    (s.applyAll r ((indexChanges table s (fields.map (·.column d))).map
        (·.statement table))).indexes[name]? = some columns ↔
      (s.indexes[name]? = some columns ∧ ∀ key, (⟨.drop, name, key⟩ : IndexChange) ∉
        indexChanges table s (fields.map (·.column d))) ∨
      ∃ key, (⟨.create, name, key⟩ : IndexChange) ∈
        indexChanges table s (fields.map (·.column d)) ∧ columns = [key] := by
  by_cases hchanged : ∃ a ∈ indexChanges table s (fields.map (·.column d)), a.index = name
  · obtain ⟨a, ha, rfl⟩ := hchanged
    rw [Snapshot.getElem?_indexes_applyAll (indexChanges_nodup h) ha]
    obtain ⟨verb, name, key⟩ := a
    cases verb with
    | create =>
        obtain ⟨hname, hnone, -⟩ := create_mem_indexChanges_iff.1 ha
        constructor
        · intro e
          exact .inr ⟨key, ha, (Option.some.inj e).symm⟩
        · rintro (⟨hsome, -⟩ | ⟨key', hmade, rfl⟩)
          · rw [hnone] at hsome
            cases hsome
          · have hname' := (create_mem_indexChanges_iff.1 hmade).1
            rw [indexName_inj (hname.symm.trans hname')]
            rfl
    | drop =>
        obtain ⟨-, -, hsome⟩ := drop_mem_indexChanges_iff.1 ha
        constructor
        · intro e
          cases e
        · rintro (⟨-, hkept⟩ | ⟨key', hmade, -⟩)
          · exact absurd ha (hkept key)
          · rw [(create_mem_indexChanges_iff.1 hmade).2.1] at hsome
            cases hsome
  · rw [Snapshot.getElem?_indexes_of_not_mem fun a ha e => hchanged ⟨a, ha, e⟩]
    constructor
    · exact fun hsome => .inl ⟨hsome, fun key hdrop => hchanged ⟨_, hdrop, rfl⟩⟩
    · rintro (⟨hsome, -⟩ | ⟨key, hmade, -⟩)
      · exact hsome
      · exact absurd ⟨_, hmade, rfl⟩ hchanged

/-- The index of a field is decided by the index change of the field, if it has one. -/
theorem indexes_of_field (r : Reporting) (table : String) {fields : List Field}
    (h : Declared d fields) {f : Field} (hf : f ∈ fields) :
    (s.applyAll r ((indexChanges table s (fields.map (·.column d))).map
        (·.statement table))).indexes[indexName table f.key]? =
      match fieldIndexChange? table s (f.column d) with
      | some a => a.outcome
      | none => s.indexes[indexName table f.key]? := by
  cases hchange : fieldIndexChange? table s (f.column d) with
  | some a =>
      have hmem : a ∈ indexChanges table s (fields.map (·.column d)) :=
        List.mem_append_right _
          (List.mem_filterMap.2 ⟨f.column d, List.mem_map.2 ⟨f, hf, rfl⟩, hchange⟩)
      have hindex : a.index = indexName table f.key := (of_fieldIndexChange? hchange).2
      rw [← hindex]
      exact Snapshot.getElem?_indexes_applyAll (indexChanges_nodup h) hmem
  | none =>
      refine Snapshot.getElem?_indexes_of_not_mem fun a ha e => ?_
      rw [index_of_mem_indexChanges ha] at e
      have hkey := indexName_inj e
      rcases List.mem_append.1 ha with ha | ha
      · obtain ⟨key, hkey', rfl⟩ := List.mem_map.1 ha
        have hreserved := systemIndexKeys_subset (List.mem_filter.1 hkey').1
        exact h.free f hf (hkey ▸ hreserved)
      · obtain ⟨c, hc, hchange'⟩ := List.mem_filterMap.1 ha
        obtain ⟨g, hg, rfl⟩ := List.mem_map.1 hc
        have hsame : g.key = f.key := (of_fieldIndexChange? hchange').1.symm.trans hkey
        rw [h.eq_of_key hg hf hsame, hchange] at hchange'
        cases hchange'

/-- The index of a system column is there after the changes, if the column is. -/
theorem indexes_of_system {r : Reporting} {fields : List Field} (h : Declared d fields)
    {key : String} (hkey : key ∈ systemIndexKeys) (hcolumn : s.columns.contains key = true) :
    (s.applyAll r ((indexChanges table s (fields.map (·.column d))).map
        (·.statement table))).indexes.contains (indexName table key) = true := by
  by_cases hindex : s.indexes.contains (indexName table key) = true
  · have hnone : ∀ a ∈ indexChanges table s (fields.map (·.column d)),
        a.index ≠ indexName table key := by
      intro a ha e
      rw [index_of_mem_indexChanges ha] at e
      have hsame := indexName_inj e
      rcases List.mem_append.1 ha with ha | ha
      · obtain ⟨key', hkey', rfl⟩ := List.mem_map.1 ha
        obtain rfl : key' = key := hsame
        have hmissing := (missesIndex_iff.1 (List.mem_filter.1 hkey').2).2
        rw [hindex] at hmissing
        cases hmissing
      · obtain ⟨c, hc, hchange⟩ := List.mem_filterMap.1 ha
        obtain ⟨f, hf, rfl⟩ := List.mem_map.1 hc
        have hfield : f.key = key := (of_fieldIndexChange? hchange).1.symm.trans hsame
        exact h.free f hf (hfield ▸ systemIndexKeys_subset hkey)
    rw [contains_iff, Snapshot.getElem?_indexes_of_not_mem hnone, ← contains_iff]
    exact hindex
  · have hmem : createIndexOf table key ∈ indexChanges table s (fields.map (·.column d)) := by
      exact List.mem_append_left _ (List.mem_map.2 ⟨key, List.mem_filter.2
        ⟨hkey, missesIndex_iff.2 ⟨hcolumn, Bool.eq_false_iff.2 hindex⟩⟩, rfl⟩)
    rw [contains_iff]
    exact congrArg Option.isSome (Snapshot.getElem?_indexes_applyAll (indexChanges_nodup h) hmem)

/-- **After the changes no index change is wanted.** -/
theorem indexChanges_of_applied {r : Reporting} {fields : List Field} (h : Declared d fields)
    {s' : Snapshot}
    (hcolumns : ∀ key ∈ systemIndexKeys, s'.columns.contains key = s.columns.contains key)
    (hindexes : s'.indexes = (s.applyAll r ((indexChanges table s (fields.map (·.column d))).map
      (·.statement table))).indexes) :
    indexChanges table s' (fields.map (·.column d)) = [] := by
  have hsystem : systemIndexChanges table s' = [] := by
    rw [systemIndexChanges, List.map_eq_nil_iff, List.filter_eq_nil_iff]
    intro key hkey hwanted
    obtain ⟨hcolumn, hindex⟩ := missesIndex_iff.1 hwanted
    rw [hcolumns key hkey] at hcolumn
    rw [hindexes, indexes_of_system h hkey hcolumn] at hindex
    cases hindex
  have hfields : fieldIndexChanges table s' (fields.map (·.column d)) = [] := by
    refine List.filterMap_eq_nil_iff.2 fun c hc => ?_
    obtain ⟨f, hf, rfl⟩ := List.mem_map.1 hc
    have hindex := indexes_of_field (s := s) r table h hf
    rw [← hindexes] at hindex
    refine fieldIndexChange?_eq_none_iff.2 ⟨fun hwanted => ?_, fun hwanted => ?_⟩
    · -- a wanted index was there, or it was made
      rw [Field.key_column, hindex]
      cases hchange : fieldIndexChange? table s (f.column d) with
      | none => exact (fieldIndexChange?_eq_none_iff.1 hchange).1 hwanted
      | some a =>
          rcases fieldIndexChange?_eq_some_iff.1 hchange with ⟨rfl, _⟩ | ⟨-, hunwanted, -⟩
          · exact Option.some_ne_none _
          · rw [hwanted] at hunwanted
            cases hunwanted
    · -- one that is not wanted covered something else, or it was dropped
      rw [Field.key_column, hindex]
      cases hchange : fieldIndexChange? table s (f.column d) with
      | none => exact (fieldIndexChange?_eq_none_iff.1 hchange).2 hwanted
      | some a =>
          rcases fieldIndexChange?_eq_some_iff.1 hchange with ⟨-, hindexed, -⟩ | ⟨rfl, _⟩
          · rw [hwanted] at hindexed
            cases hindexed
          · exact (Option.some_ne_none _).symm
  rw [indexChanges, hsystem, hfields, List.append_nil]

end Conform

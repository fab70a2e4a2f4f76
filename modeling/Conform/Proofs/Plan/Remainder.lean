/-
**What is left of a plan after one of its statements.**

The index changes of a plan are decided column by column, and each looks at the index of its own
name only.  So after one of them the others are still wanted, and it is not.  A new column takes
nothing away from them, and a table that was just made wants the indexes that it is made with.

Main results:

* `plans_iff_free` — a table that is there has a plan exactly when no field is in conflict;
* `indexChanges_apply` — **after an index change the others are left**;
* `indexChanges_newTable` — a new table wants the indexes that it is made with.
-/

import Conform.Proofs.Plan.Convergence
import Conform.Proofs.Sync.Refusals
import Mathlib.Data.List.Basic

set_option relaxedAutoImplicit false
set_option autoImplicit false

namespace Conform

variable {d : Dialect} {o : Options} {table : String} {s s' : Snapshot} {r : Reporting}
  {fields : List Field}

/-! ### Conflicts -/

/-- **A table that is there has a plan exactly when no field is in conflict**, whatever the
switches. -/
theorem plans_iff_free :
    (∃ p, planLiveTable d o table fields s = .ok p) ↔
      ∀ f ∈ fields, ∀ live, ¬f.Clashes d s live := by
  have hrefused : (∃ e, planLiveTable d o table fields s = .error e) ↔
      ∃ f ∈ fields, ∃ live, f.Clashes d s live := planLiveTable_refused_iff
  cases hplan : planLiveTable d o table fields s with
  | ok p =>
      rw [hplan] at hrefused
      refine ⟨fun _ f hf live hclash => ?_, fun _ => ⟨p, rfl⟩⟩
      obtain ⟨e, he⟩ := hrefused.2 ⟨f, hf, live, hclash⟩
      cases he
  | error e =>
      obtain ⟨f, hf, live, hclash⟩ := hrefused.1 ⟨e, hplan⟩
      constructor
      · rintro ⟨p, hp⟩
        cases hp
      · intro hfree
        exact absurd hclash (hfree f hf live)

/-- A column that was added for a field is not in conflict with it. -/
theorem not_clashes_of_shows {f : Field} (hshows : r.Shows (f.column d))
    (hadded : s.columns[f.key]? = some (r.column (f.column d))) (live : LiveColumn) :
    ¬f.Clashes d s live := by
  rintro ⟨hlive, hdiffers, -⟩
  obtain rfl := Option.some.inj (hadded.symm.trans hlive)
  exact Bool.noConfusion (hshows.type.symm.trans hdiffers)

/-! ### Index changes -/

theorem fieldIndexChange?_congr {c : Column}
    (h : s'.indexes[indexName table c.key]? = s.indexes[indexName table c.key]?) :
    fieldIndexChange? table s' c = fieldIndexChange? table s c := by
  have hthere : s'.indexes.contains (indexName table c.key) =
      s.indexes.contains (indexName table c.key) := by
    rw [contains_iff, contains_iff, h]
  have hverb : indexVerb? table s' c = indexVerb? table s c := by
    rw [indexVerb?, indexVerb?, hthere, Snapshot.coversOnly, Snapshot.coversOnly, h]
  rw [fieldIndexChange?, fieldIndexChange?, hverb]

/-- An index change on a system column makes its index. -/
theorem eq_createIndexOf_of_mem (h : Declared d fields) {a : IndexChange}
    (ha : a ∈ indexChanges table s (fields.map (·.column d))) (hkey : a.key ∈ systemIndexKeys) :
    a = createIndexOf table a.key := by
  rcases List.mem_append.1 ha with ha | ha
  · obtain ⟨key, -, rfl⟩ := List.mem_map.1 ha
    rfl
  · obtain ⟨c, hc, hchange⟩ := List.mem_filterMap.1 ha
    obtain ⟨f, hf, rfl⟩ := List.mem_map.1 hc
    rw [(of_fieldIndexChange? hchange).1] at hkey
    exact absurd (systemIndexKeys_subset hkey) (h.free f hf)

/-- An index change on the column of a field is the one that the field asks for. -/
theorem fieldIndexChange?_of_mem (h : Declared d fields) {a : IndexChange}
    (ha : a ∈ indexChanges table s (fields.map (·.column d))) {f : Field} (hf : f ∈ fields)
    (hkey : a.key = f.key) : fieldIndexChange? table s (f.column d) = some a := by
  rcases List.mem_append.1 ha with ha | ha
  · obtain ⟨key, hsystem, rfl⟩ := List.mem_map.1 ha
    obtain rfl : key = f.key := hkey
    exact absurd (systemIndexKeys_subset (List.mem_filter.1 hsystem).1) (h.free f hf)
  · obtain ⟨c, hc, hchange⟩ := List.mem_filterMap.1 ha
    obtain ⟨g, hg, rfl⟩ := List.mem_map.1 hc
    have hsame : g.key = f.key := (of_fieldIndexChange? hchange).1.symm.trans hkey
    rwa [h.eq_of_key hg hf hsame] at hchange

/-- **After an index change the others are left.** -/
theorem indexChanges_apply (r : Reporting) (h : Declared d fields) {a : IndexChange}
    (ha : a ∈ indexChanges table s (fields.map (·.column d))) :
    indexChanges table (s.apply r (a.statement table)) (fields.map (·.column d)) =
      (indexChanges table s (fields.map (·.column d))).filter fun b => b ≠ a := by
  have hname : a.index = indexName table a.key := index_of_mem_indexChanges ha
  have hcolumns : (s.apply r (a.statement table)).columns = s.columns :=
    Snapshot.columns_applyAll_changes table [a]
  have hsystem : systemIndexChanges table (s.apply r (a.statement table)) =
      (systemIndexChanges table s).filter fun b => b ≠ a := by
    rw [systemIndexChanges, systemIndexChanges, List.filter_map, List.filter_filter]
    refine congrArg _ (List.filter_congr fun key hkey => ?_)
    rw [missesIndex, missesIndex, hcolumns, contains_iff (m := (s.apply r _).indexes),
      Snapshot.getElem?_indexes_apply, contains_iff (m := s.indexes)]
    by_cases hsame : a.key = key
    · -- the index of a system column is made once
      have hmade : a = createIndexOf table key :=
        hsame ▸ eq_createIndexOf_of_mem h ha (hsame ▸ hkey)
      simp [hmade, createIndexOf, IndexChange.outcome]
    · have hindex : a.index ≠ indexName table key := fun e => hsame (indexName_inj (hname ▸ e))
      have hother : createIndexOf table key ≠ a := fun e => hsame (e ▸ rfl)
      simp [hindex, hother]
  have hfields : fieldIndexChanges table (s.apply r (a.statement table))
      (fields.map (·.column d)) =
        (fieldIndexChanges table s (fields.map (·.column d))).filter fun b => b ≠ a := by
    rw [fieldIndexChanges, fieldIndexChanges, List.filter_filterMap]
    refine List.filterMap_congr fun c hc => ?_
    obtain ⟨f, hf, rfl⟩ := List.mem_map.1 hc
    by_cases hsame : a.key = f.key
    · -- what the field asked for was done, and it asks for nothing else
      have hchange := fieldIndexChange?_of_mem h ha hf hsame
      have hdone : (s.apply r (a.statement table)).indexes[indexName table f.key]? = a.outcome := by
        rw [Snapshot.getElem?_indexes_apply, if_pos (hname.trans (by rw [hsame]))]
      have hnone : fieldIndexChange? table (s.apply r (a.statement table)) (f.column d) = none := by
        rw [fieldIndexChange?_eq_none_iff, Field.key_column, hdone]
        rcases fieldIndexChange?_eq_some_iff.1 hchange with ⟨rfl, hindexed, -⟩ | ⟨rfl, hindexed, -⟩
        · simp [createIndexOf, IndexChange.outcome, hindexed]
        · simp [dropIndexOf, IndexChange.outcome, hindexed]
      rw [hnone, hchange]
      simp [Option.filter]
    · have hindex : a.index ≠ indexName table f.key := fun e => hsame (indexName_inj (hname ▸ e))
      have hkept : fieldIndexChange? table (s.apply r (a.statement table)) (f.column d) =
          fieldIndexChange? table s (f.column d) := by
        refine fieldIndexChange?_congr ?_
        rw [Field.key_column, Snapshot.getElem?_indexes_apply, if_neg hindex]
      rw [hkept]
      cases hchange : fieldIndexChange? table s (f.column d) with
      | none => rfl
      | some b =>
          have hother : b ≠ a := by
            rintro rfl
            exact hsame (of_fieldIndexChange? hchange).1
          simp [Option.filter, hother]
  rw [indexChanges, indexChanges, hsystem, hfields, List.filter_append]

/-- **A new table wants the indexes that it is made with.** -/
theorem indexChanges_newTable (r : Reporting) (table : String) (columns : List Column) :
    indexChanges table ⟨r.newTable columns, ∅⟩ columns =
      (createIndexKeys columns).map (createIndexOf table) := by
  have hnone : ∀ key, (∅ : NameMap (List String))[indexName table key]? = none :=
    fun _ => Std.ExtTreeMap.getElem?_empty
  have hsystem : systemIndexChanges table ⟨r.newTable columns, ∅⟩ =
      systemIndexKeys.map (createIndexOf table) := by
    rw [systemIndexChanges]
    refine congrArg _ (List.filter_eq_self.2 fun key hkey => ?_)
    have hcolumn : (r.newTable columns).contains key = true := by
      rw [Reporting.newTable, Std.ExtTreeMap.contains_ofList, List.contains_iff_mem,
        List.map_append, List.map_map]
      exact List.mem_append_left _ (systemIndexKeys_subset hkey)
    exact missesIndex_iff.2 ⟨hcolumn, by rw [contains_iff, hnone]; rfl⟩
  have hfields : fieldIndexChanges table ⟨r.newTable columns, ∅⟩ columns =
      ((columns.filter (·.indexed)).map (·.key)).map (createIndexOf table) := by
    rw [fieldIndexChanges, List.map_map, ← List.filterMap_eq_map, List.filterMap_filter]
    refine List.filterMap_congr fun c _ => ?_
    cases hindexed : c.indexed with
    | true => exact fieldIndexChange?_eq_some_iff.2 (.inl ⟨rfl, hindexed, hnone _⟩)
    | false =>
        refine fieldIndexChange?_eq_none_iff.2 ⟨fun e => ?_, fun _ => ?_⟩
        · rw [hindexed] at e
          cases e
        · exact fun e => Option.some_ne_none _ (e.symm.trans (hnone c.key))
  rw [indexChanges, hsystem, hfields, createIndexKeys, List.map_append]

end Conform

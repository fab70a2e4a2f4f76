/-
**Loading does not depend on how a folder is listed.**

A folder lists its entries in an order of its own.  What is loaded are the definitions in its
sources, in the order of the bytes of their names, and when a source fails the error is that of the
first one that fails in this order.  Names in a folder are pairwise different, so the order in which
the entries are listed has no effect, and neither has any entry that is no source.

Main definitions:

* `Folder.Entry.Holds` — that an entry is a file with the source of a definition;
* `Folder.LoadFacts` — **what is known of loading a folder**.

Main results:

* `firstError_eq_error_iff` — the first error stands after values only;
* `Folder.isSource_iff` — which names are those of sources;
* `Folder.read_eq_ok_iff`, `Folder.read_eq_error` — what reading an entry comes to;
* `Folder.sources_strictly_sorted` — sources are taken in the order of the bytes of their names;
* `Folder.load_eq_error_iff` — **the error is that of the first source that fails**;
* `Folder.definitions_loaded` — **what loading a folder comes to**.
-/

import Conform.Definition.Folder
import Conform.Proofs.Text.ByteOrder
import Mathlib.Data.List.Forall2

set_option relaxedAutoImplicit false
set_option autoImplicit false

namespace Conform

/-- **The first error stands after values only.** -/
theorem firstError_eq_error_iff {ε α : Type} {rs : List (Except ε α)} {e : ε} :
    firstError rs = .error e ↔
      ∃ (as : List α) (rest : List (Except ε α)), rs = as.map .ok ++ .error e :: rest := by
  induction rs with
  | nil => simp [firstError]
  | cons r rs ih =>
      cases r with
      | error e' =>
          constructor
          · intro h
            cases h
            exact ⟨[], rs, rfl⟩
          · rintro ⟨as, rest, h⟩
            cases as with
            | nil =>
                cases h
                rfl
            | cons a as => cases h
      | ok a =>
          have hlater : firstError (.ok a :: rs) = .error e ↔ firstError rs = .error e := by
            rw [firstError]
            cases firstError rs <;> simp
          rw [hlater, ih]
          constructor
          · rintro ⟨as, rest, rfl⟩
            exact ⟨a :: as, rest, rfl⟩
          · rintro ⟨as, rest, h⟩
            cases as with
            | nil => cases h
            | cons b as => exact ⟨as, rest, (List.cons.inj h).2⟩

namespace Folder

variable {entries : List Entry} {f g : Entry} {t : Definition} {tables : List Definition}
  {e : LoadError}

/-! ### One entry -/

/-- **The names of sources**: those with the extension `json` and something before it. -/
theorem isSource_iff : isSource f = true ↔ ∃ stem, stem ≠ "" ∧ f.name = stem ++ ".json" := by
  rw [isSource, Bool.and_eq_true, List.isSuffixOf_iff_suffix, decide_eq_true_eq]
  constructor
  · rintro ⟨⟨stem, hstem⟩, hlonger⟩
    refine ⟨String.ofList stem, ?_, ?_⟩
    · intro hempty
      rw [← hstem, String.ofList_eq_empty_iff.1 hempty] at hlonger
      exact absurd hlonger (Nat.lt_irrefl _)
    · rw [← String.toList_inj, ← hstem, String.toList_append, String.toList_ofList]
      rfl
  · rintro ⟨stem, hstem, hname⟩
    have hlist : f.name.toList = stem.toList ++ extension := by
      rw [hname, String.toList_append]
      rfl
    have hpos : 0 < stem.toList.length :=
      List.length_pos_iff.2 fun h => hstem (String.toList_eq_nil_iff.1 h)
    refine ⟨⟨stem.toList, hlist.symm⟩, ?_⟩
    rw [hlist, List.length_append]
    omega

/-- **That an entry is a file with the source of a definition**, in UTF-8. -/
def Entry.Holds (f : Entry) (t : Definition) : Prop :=
  ∃ source : String, f.content = .file source.toUTF8 ∧ Definition.ofSource? source = some t

theorem fromUTF8?_eq_some_iff {bytes : ByteArray} {s : String} :
    String.fromUTF8? bytes = some s ↔ bytes = s.toUTF8 := by
  unfold String.fromUTF8?
  constructor
  · intro h
    split at h
    · cases h
      rfl
    · cases h
  · rintro rfl
    exact dif_pos s.isValidUTF8

/-- **An entry is read as the definition that it holds.** -/
theorem read_eq_ok_iff : read f = .ok t ↔ f.Holds t := by
  unfold read
  constructor
  · intro h
    split at h
    · cases h
    · cases h
    next bytes hcontent =>
      split at h
      · cases h
      next source hsource =>
        split at h
        · cases h
        next t' ht =>
          cases h
          exact ⟨source, by rw [hcontent, fromUTF8?_eq_some_iff.1 hsource], ht⟩
  · rintro ⟨source, hcontent, ht⟩
    simp only [hcontent, fromUTF8?_eq_some_iff.2 rfl, ht]

/-- The error of an entry names it. -/
theorem read_eq_error (h : read f = .error e) : ∃ fault, e = .source f.name fault := by
  unfold read at h
  split at h
  · exact ⟨_, (Except.error.inj h).symm⟩
  · exact ⟨_, (Except.error.inj h).symm⟩
  · split at h
    · exact ⟨_, (Except.error.inj h).symm⟩
    · split at h
      · exact ⟨_, (Except.error.inj h).symm⟩
      · cases h

theorem forall₂_holds_iff {files : List Entry} :
    List.Forall₂ Entry.Holds files tables ↔ files.map read = tables.map .ok := by
  induction files generalizing tables with
  | nil => cases tables <;> simp
  | cons f files ih =>
      cases tables with
      | nil => simp
      | cons t tables => simp [ih, ← read_eq_ok_iff]

/-! ### The sources of a folder -/

theorem sources_perm (entries : List Entry) : (sources entries).Perm (entries.filter isSource) :=
  List.mergeSort_perm _ _

theorem mem_sources_iff : f ∈ sources entries ↔ f ∈ entries ∧ isSource f = true := by
  rw [(sources_perm entries).mem_iff, List.mem_filter]

/-- **Sources are taken in the order of their names.** -/
theorem sources_sorted (entries : List Entry) :
    (sources entries).Pairwise fun a b => a.name ≤ b.name := by
  have htrans : ∀ a b c : Entry, decide (a.name ≤ b.name) = true →
      decide (b.name ≤ c.name) = true → decide (a.name ≤ c.name) = true := by
    intro a b c hab hbc
    rw [decide_eq_true_eq] at hab hbc ⊢
    exact String.le_trans hab hbc
  have htotal : ∀ a b : Entry, (decide (a.name ≤ b.name) || decide (b.name ≤ a.name)) = true := by
    intro a b
    simpa using String.le_total a.name b.name
  exact (List.pairwise_mergeSort htrans htotal (entries.filter isSource)).imp of_decide_eq_true

/-- That the name of an entry is before that of another in the order of their bytes. -/
def Entry.Before (f g : Entry) : Prop := Text.bytes f.name < Text.bytes g.name

theorem Entry.Before.asymm (h : f.Before g) : ¬g.Before f := List.lt_asymm h

/-- **Where names are different, each source is before the later ones.** -/
theorem sources_strictly_sorted (h : (entries.map (·.name)).Nodup) :
    (sources entries).Pairwise Entry.Before := by
  have hnames : ((sources entries).map (·.name)).Nodup :=
    (((sources_perm entries).map _).nodup_iff).2 (h.sublist (List.filter_sublist.map _))
  refine ((sources_sorted entries).and (List.pairwise_map.1 hnames)).imp fun ⟨hle, hne⟩ => ?_
  exact Text.bytes_lt_iff.2 (Std.lt_of_le_of_ne hle hne)

/-- **There is one way to sort the sources.** -/
theorem sources_eq_of_sorted {files : List Entry} (h : (entries.map (·.name)).Nodup)
    (hperm : files.Perm (entries.filter isSource)) (hsorted : files.Pairwise Entry.Before) :
    sources entries = files :=
  List.Perm.eq_of_pairwise (fun _ _ _ _ hfg hgf => absurd hgf hfg.asymm)
    (sources_strictly_sorted h) hsorted ((sources_perm entries).trans hperm.symm)

/-- **The sources do not depend on how a folder is listed.** -/
theorem sources_eq_of_perm {listing : List Entry} (h : (entries.map (·.name)).Nodup)
    (hlisting : listing.Perm entries) : sources listing = sources entries :=
  sources_eq_of_sorted (((hlisting.map _).nodup_iff).2 h)
    ((sources_perm entries).trans (hlisting.symm.filter _)) (sources_strictly_sorted h)

/-! ### Loading -/

theorem load_eq_ok_iff : load entries = .ok tables ↔
    (sources entries).map read = tables.map .ok :=
  firstError_eq_ok_iff

/-- Entries that all hold definitions are read as definitions. -/
theorem exists_map_read {files : List Entry} (h : ∀ f ∈ files, ∃ t, f.Holds t) :
    ∃ tables : List Definition, files.map read = tables.map .ok := by
  induction files with
  | nil => exact ⟨[], rfl⟩
  | cons f files ih =>
      obtain ⟨t, ht⟩ := h f (List.mem_cons_self ..)
      obtain ⟨tables, htables⟩ := ih fun g hg => h g (List.mem_cons_of_mem _ hg)
      exact ⟨t :: tables, by rw [List.map_cons, read_eq_ok_iff.2 ht, htables]; rfl⟩

theorem holds_of_map_read {files : List Entry} (h : files.map read = tables.map .ok)
    (hf : f ∈ files) : ∃ t, f.Holds t := by
  obtain ⟨t, -, ht⟩ := List.mem_map.1 (h ▸ List.mem_map.2 ⟨f, hf, rfl⟩)
  exact ⟨t, read_eq_ok_iff.1 ht.symm⟩

/-- A folder is loaded exactly when every source holds a definition. -/
theorem exists_load_iff :
    (∃ tables, load entries = .ok tables) ↔
      ∀ f ∈ entries, isSource f = true → ∃ t, f.Holds t := by
  simp only [load_eq_ok_iff]
  constructor
  · rintro ⟨tables, htables⟩ f hf hsource
    exact holds_of_map_read htables (mem_sources_iff.2 ⟨hf, hsource⟩)
  · intro h
    refine exists_map_read fun f hf => ?_
    obtain ⟨hmem, hsource⟩ := mem_sources_iff.1 hf
    exact h f hmem hsource

/-- **The error is that of the first source that fails**: all sources before it hold definitions. -/
theorem load_eq_error_iff (h : (entries.map (·.name)).Nodup) :
    load entries = .error e ↔ ∃ f ∈ entries, isSource f = true ∧ read f = .error e ∧
      ∀ g ∈ entries, isSource g = true → g.Before f → ∃ t, g.Holds t := by
  have hsorted := sources_strictly_sorted h
  rw [load, firstError_eq_error_iff]
  constructor
  · rintro ⟨tables, rest, hread⟩
    obtain ⟨earlier, later, hsources, hearlier, hlater⟩ := List.map_eq_append_iff.1 hread
    obtain ⟨f, others, rfl, hf, -⟩ := List.map_eq_cons_iff.1 hlater
    rw [hsources] at hsorted
    have hmem : f ∈ sources entries := hsources ▸ List.mem_append_cons_self
    refine ⟨f, (mem_sources_iff.1 hmem).1, (mem_sources_iff.1 hmem).2, hf, ?_⟩
    intro g hg hsource hbefore
    have hgmem : g ∈ earlier ++ f :: others := hsources ▸ mem_sources_iff.2 ⟨hg, hsource⟩
    -- a source before the failing one stands before it in the order in which they are read
    rcases List.mem_append.1 hgmem with hg | hg
    · exact holds_of_map_read hearlier hg
    · rcases List.mem_cons.1 hg with rfl | hg
      · exact absurd hbefore hbefore.asymm
      · have hafter := (List.pairwise_cons.1 (List.pairwise_append.1 hsorted).2.1).1 g hg
        exact absurd hbefore hafter.asymm
  · rintro ⟨f, hf, hsource, hread, hbefore⟩
    obtain ⟨earlier, later, hsources⟩ :=
      List.append_of_mem (mem_sources_iff.2 ⟨hf, hsource⟩)
    rw [hsources] at hsorted
    obtain ⟨tables, htables⟩ :
        ∃ tables : List Definition, earlier.map read = tables.map .ok := by
      refine exists_map_read fun g hg => ?_
      have hmem : g ∈ sources entries := hsources ▸ List.mem_append_left _ hg
      exact hbefore g (mem_sources_iff.1 hmem).1 (mem_sources_iff.1 hmem).2
        ((List.pairwise_append.1 hsorted).2.2 g hg f (List.mem_cons_self ..))
    exact ⟨tables, later.map read, by
      rw [hsources, List.map_append, htables, List.map_cons, hread]⟩

/-- **How a folder is listed has no effect.** -/
theorem load_eq_of_perm {listing : List Entry} (h : (entries.map (·.name)).Nodup)
    (hlisting : listing.Perm entries) : load listing = load entries := by
  rw [load, load, sources_eq_of_perm h hlisting]

/-- **What is loaded** are the definitions of the sources, in the order of the bytes of their
names. -/
theorem load_eq_ok_iff_sorted (h : (entries.map (·.name)).Nodup) :
    load entries = .ok tables ↔ ∃ files, files.Perm (entries.filter isSource) ∧
      files.Pairwise Entry.Before ∧ List.Forall₂ Entry.Holds files tables := by
  rw [load_eq_ok_iff, ← forall₂_holds_iff]
  constructor
  · intro hloaded
    exact ⟨sources entries, sources_perm entries, sources_strictly_sorted h, hloaded⟩
  · rintro ⟨files, hperm, hsorted, hloaded⟩
    -- a list of the sources that is sorted is the one in which they are read
    rwa [sources_eq_of_sorted h hperm hsorted]

/-- **What is known of loading a folder.** -/
structure LoadFacts (entries : List Entry) : Prop where
  listed : ∀ listing, listing.Perm entries → load listing = load entries
  named : ∀ f ∈ entries, isSource f = true ↔ ∃ stem, stem ≠ "" ∧ f.name = stem ++ ".json"
  succeeds : (∃ tables, load entries = .ok tables) ↔
    ∀ f ∈ entries, isSource f = true → ∃ t, f.Holds t
  /-- There is one definition for each source and no others, in the order of the bytes of the
  names. -/
  loads : ∀ tables, load entries = .ok tables ↔ ∃ files, files.Perm (entries.filter isSource) ∧
    files.Pairwise (fun f g => Text.bytes f.name < Text.bytes g.name) ∧
    List.Forall₂ Entry.Holds files tables
  /-- The error is that of the failing source whose name comes first, and it names that source. -/
  fails : ∀ e, load entries = .error e ↔ ∃ f ∈ entries, isSource f = true ∧ read f = .error e ∧
    (∃ fault, e = .source f.name fault) ∧
    ∀ g ∈ entries, isSource g = true → Text.bytes g.name < Text.bytes f.name → ∃ t, g.Holds t

/-- **What loading a folder comes to.**  The names in a folder are pairwise different. -/
theorem definitions_loaded (h : (entries.map (·.name)).Nodup) : LoadFacts entries where
  listed _ hlisting := load_eq_of_perm h hlisting
  named _ _ := isSource_iff
  succeeds := exists_load_iff
  loads _ := load_eq_ok_iff_sorted h
  fails e := by
    rw [load_eq_error_iff h]
    constructor
    · rintro ⟨f, hf, hsource, hread, hbefore⟩
      exact ⟨f, hf, hsource, hread, read_eq_error hread, hbefore⟩
    · rintro ⟨f, hf, hsource, hread, -, hbefore⟩
      exact ⟨f, hf, hsource, hread, hbefore⟩

/-- A folder with two sources that fail, a note, and a definition, listed in no order. -/
def mixedEntries : List Entry :=
  [⟨"c.json", .file "\x7b".toUTF8⟩, ⟨"notes.txt", .file "ignored".toUTF8⟩, ⟨"b.json", .directory⟩,
    ⟨"a.json", .file "[\x22user\x22,null,\x7b\x7d]".toUTF8⟩]

/-- Of the two sources that fail, the error is that of the one whose name is first, in whatever
order the folder is listed. -/
theorem definitions_loaded_mixed :
    (mixedEntries.map (·.name)).Nodup ∧
    load mixedEntries = .error (.source "b.json" .directory) ∧
    load mixedEntries.reverse = .error (.source "b.json" .directory) := by
  have hnames : (mixedEntries.map (·.name)).Nodup := by decide
  have hfacts := definitions_loaded hnames
  have hfirst : load mixedEntries = .error (.source "b.json" .directory) := by
    refine (hfacts.fails _).2
      ⟨⟨"b.json", .directory⟩, by simp [mixedEntries], by decide, rfl, ⟨_, rfl⟩, ?_⟩
    intro g hg hsource hbefore
    rw [Text.bytes_lt_iff] at hbefore
    simp only [mixedEntries, List.mem_cons, List.not_mem_nil, or_false] at hg
    rcases hg with rfl | rfl | rfl | rfl
    · exact absurd hbefore (by decide)
    · exact absurd hsource (by decide)
    · exact absurd hbefore (by decide)
    · exact ⟨⟨"user", none, []⟩, _, rfl, by decide +kernel⟩
  exact ⟨hnames, hfirst, (hfacts.listed _ (List.reverse_perm _)).trans hfirst⟩

end Folder

end Conform

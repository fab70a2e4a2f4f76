/-
**A run succeeds when everything did.**

A run begins once it has a configuration, all definitions of its folder, and a database.  It sets
aside the definitions with errors and syncs the others in the order in which they were loaded, as
if the others were all there is; it succeeds exactly when it began, nothing was set aside, and every
sync succeeded.

The program runs over a SQLite database.  When it only shows its statements, it leaves the database
as it was, and a file that was missing holds an empty one.

Main definitions:

* `Invocation.Begins` — that a run gets as far as its first table;
* `Invocation.Facts` — **what is known of a run that begins**;
* `Program.RunFacts` — **what is known of a run of the program**.

Main results:

* `Invocation.run_of_begins` — **a run that begins is the run over its valid definitions**;
* `Invocation.succeeded_iff` — **when a run succeeds**;
* `Sqlite.stored_of_left?` — what is left of a database that was not changed;
* `Program.run_invocation` — **the runs of the program**.
-/

import Conform.Main
import Conform.Proofs.Definition.Loading
import Conform.Proofs.Sync.Results
import Conform.Proofs.Sync.Validation

set_option relaxedAutoImplicit false
set_option autoImplicit false

namespace Conform

namespace Invocation

variable {σ : Type} {i : Invocation σ} {c : Config} {entries : List Folder.Entry}
  {d : Dialect} {tables : List Definition} {state : σ}

/-! ### Definitions that are set aside -/

theorem mem_valid_iff {t : Definition} : t ∈ valid d tables ↔ t ∈ tables ∧ t.errors d = [] := by
  simp [valid]

/-- Nothing is set aside exactly when no definition has errors. -/
theorem length_valid_eq_iff :
    (valid d tables).length = tables.length ↔ ∀ t ∈ tables, t.errors d = [] := by
  simp [valid, List.length_filter_eq_length_iff]

theorem valid_eq_self (h : ∀ t ∈ tables, t.errors d = []) : valid d tables = tables :=
  List.filter_eq_self.2 fun t ht => by rw [h t ht]; rfl

/-- **A definition with errors is left out**, and the others are as they are without it. -/
theorem valid_append_cons {before later : List Definition} {t : Definition}
    (h : t.errors d ≠ []) : valid d (before ++ t :: later) = valid d (before ++ later) := by
  simp [valid, h]

/-! ### Beginning -/

/-- The definitions of a run are those of the sources of its folder. -/
theorem definitions_eq_ok_iff : i.definitions = .ok tables ↔
    ∃ entries, i.folder i.folderName = .ok entries ∧
      (Folder.sources entries).map Folder.read = tables.map .ok := by
  unfold definitions
  cases i.folder i.folderName with
  | error why => simp
  | ok entries => simp [Folder.load_eq_ok_iff]

/-- **That a run gets as far as its first table**: it has a configuration, every source of its
folder is a definition, and its database opens. -/
structure Begins (i : Invocation σ) (c : Config) (entries : List Folder.Entry)
    (tables : List Definition) (state : σ) : Prop where
  config : Config.ofEnvironment i.environment = .ok c
  folder : i.folder i.folderName = .ok entries
  loaded : (Folder.sources entries).map Folder.read = tables.map .ok
  opened : i.connect c = .ok state

/-- **A run that begins is the run over its valid definitions**, from an empty log: before its
entries stand the errors of the others and what was loaded, and after them stands the summary. -/
theorem run_of_begins (h : i.Begins c entries tables state) :
    i.run =
      { succeeded :=
          (syncAll i.backend i.options (valid c.dialect tables) ⟨state, []⟩).1.isSuccess &&
            tables.length - (valid c.dialect tables).length == 0
        log := errorLog c.dialect tables ++
          [loadedEntry i.folderName tables.length (tables.length - (valid c.dialect tables).length)
            i.options.planOnly] ++
          (syncAll i.backend i.options (valid c.dialect tables) ⟨state, []⟩).2.log ++
          [⟨.info, .run,
            (syncAll i.backend i.options (valid c.dialect tables) ⟨state, []⟩).1.text⟩]
        state := some
          (syncAll i.backend i.options (valid c.dialect tables) ⟨state, []⟩).2.state } := by
  have hdefinitions : i.definitions = .ok tables :=
    definitions_eq_ok_iff.2 ⟨entries, h.folder, h.loaded⟩
  rw [run, h.config]
  simp only [hdefinitions, runLoaded, h.opened]
  -- the run goes from the log that it has so far as it goes from an empty one
  rw [← Journal.after_empty, syncAll_after]
  rfl

/-- **A run that does not begin does not succeed**, and no database was opened. -/
theorem begins_or_ends (i : Invocation σ) :
    (∃ c entries tables state, i.Begins c entries tables state) ∨
      (i.run.succeeded = false ∧ i.run.state = none) := by
  unfold run
  cases hconfig : Config.ofEnvironment i.environment with
  | error e => exact .inr ⟨rfl, rfl⟩
  | ok c =>
      dsimp only
      cases hdefinitions : i.definitions with
      | error e => exact .inr ⟨rfl, rfl⟩
      | ok tables =>
          obtain ⟨entries, hfolder, hloaded⟩ := definitions_eq_ok_iff.1 hdefinitions
          simp only [runLoaded]
          cases hopened : i.connect c with
          | error e => exact .inr ⟨rfl, rfl⟩
          | ok state =>
              exact .inl ⟨c, entries, tables, state, hconfig, hfolder, hloaded, hopened⟩

/-- A run that begins succeeds exactly when no definition has errors and every sync succeeds. -/
theorem succeeded_of_begins (h : i.Begins c entries tables state) :
    i.run.succeeded = true ↔ (∀ t ∈ tables, t.errors c.dialect = []) ∧
      ∀ r ∈ syncResults i.backend i.options tables state, ∃ out, r = .ok out := by
  have hnone : tables.length - (valid c.dialect tables).length = 0 ↔
      ∀ t ∈ tables, t.errors c.dialect = [] := by
    have hle : (valid c.dialect tables).length ≤ tables.length := List.length_filter_le _ _
    rw [← length_valid_eq_iff]
    omega
  rw [run_of_begins h, Bool.and_eq_true, isSuccess_syncAll, beq_iff_eq, hnone, and_comm]
  -- where nothing is set aside, the definitions are the valid ones
  refine and_congr_right fun hvalid => ?_
  rw [valid_eq_self hvalid]

/-- **When a run succeeds.** -/
theorem succeeded_iff (i : Invocation σ) :
    i.run.succeeded = true ↔ ∃ c entries tables state, i.Begins c entries tables state ∧
      (∀ t ∈ tables, t.errors c.dialect = []) ∧
      ∀ r ∈ syncResults i.backend i.options tables state, ∃ out, r = .ok out := by
  constructor
  · intro h
    rcases i.begins_or_ends with ⟨c, entries, tables, state, hbegins⟩ | ⟨hfailed, -⟩
    · exact ⟨c, entries, tables, state, hbegins, (succeeded_of_begins hbegins).1 h⟩
    · rw [hfailed] at h
      cases h
  · rintro ⟨c, entries, tables, state, hbegins, hall⟩
    exact (succeeded_of_begins hbegins).2 hall

/-- **A run that only shows its statements leaves the state that it opened.** -/
theorem state_of_planOnly (h : i.Begins c entries tables state) (hanswers : i.backend.OnlyAnswers)
    (hplan : i.options.planOnly = true) : i.run.state = some state := by
  rw [run_of_begins h]
  exact congrArg some (hanswers.syncAll hplan _ _)

/-- **What is known of a run that begins**: over which definitions it goes, in which order, and what
it leaves. -/
structure Facts (i : Invocation σ) (c : Config) (entries : List Folder.Entry)
    (tables : List Definition) (state : σ) : Prop where
  sources : (Folder.sources entries).Perm (entries.filter Folder.isSource)
  sorted : (Folder.sources entries).Pairwise fun a b => a.name ≤ b.name
  mem_valid : ∀ t, t ∈ valid c.dialect tables ↔ t ∈ tables ∧ t.errors c.dialect = []
  /-- The others are as they are without a definition that has errors. -/
  skips : ∀ before t later, tables = before ++ t :: later → t.errors c.dialect ≠ [] →
    valid c.dialect tables = valid c.dialect (before ++ later)
  /-- The run is that over the valid definitions, from an empty log; before its entries stand the
  errors of the others and what was loaded, and after them stands the summary. -/
  syncs : ∃ summary own,
    syncAll i.backend i.options (valid c.dialect tables) ⟨state, []⟩ = (summary, own) ∧
    i.run.state = some own.state ∧
    i.run.log = errorLog c.dialect tables ++
      [loadedEntry i.folderName tables.length
        (tables.length - (valid c.dialect tables).length) i.options.planOnly] ++
      own.log ++ [⟨.info, .run, summary.text⟩]
  plans : i.options.planOnly = true → i.run.state = some state

/-- **A run that begins goes over the definitions without errors.** -/
theorem Begins.facts (h : i.Begins c entries tables state) (hanswers : i.backend.OnlyAnswers) :
    i.Facts c entries tables state where
  sources := Folder.sources_perm entries
  sorted := Folder.sources_sorted entries
  mem_valid _ := mem_valid_iff
  skips before t later htables herrors := by
    rw [htables]
    exact valid_append_cons herrors
  syncs := by
    have hrun := run_of_begins h
    cases hsynced : syncAll i.backend i.options (valid c.dialect tables) ⟨state, []⟩ with
    | mk summary own =>
        rw [hsynced] at hrun
        exact ⟨summary, own, rfl, congrArg Ending.state hrun, congrArg Ending.log hrun⟩
  plans := state_of_planOnly h hanswers

/-- The switch and the argument that ask for a plan. -/
theorem planOnly_iff (i : Invocation σ) :
    i.options.planOnly = true ↔
      (Options.ofEnvironment i.environment).planOnly = true ∨ "--plan" ∈ i.arguments := by
  simp [options]

end Invocation

/-! ### Databases in files -/

namespace Sqlite

variable {files : Files} {c : Config} {state : Connection} {path : String} {db : Database}

/-- The questions of an open database change nothing. -/
theorem Connection.onlyAnswers : Connection.backend.OnlyAnswers where
  tableExists table state := by
    obtain ⟨content, readOnly⟩ := state
    cases content <;> rfl
  columns table state := by
    obtain ⟨content, readOnly⟩ := state
    cases content <;> rfl
  indexes table state := by
    obtain ⟨content, readOnly⟩ := state
    cases content <;> rfl

/-- A database that opens is at a location that its URL names. -/
theorem opened_of_connect (h : connect files c = .ok state) :
    ∃ l, Location.ofUrl? c.url = some l ∧ l.opened files = .ok state := by
  unfold connect at h
  split at h
  · split at h
    next l hl => exact ⟨l, hl, h⟩
    · cases h
  · cases h

/-- What a location opens is what its file holds; a file that is missing is taken to be empty. -/
theorem stored_of_opened {l : Location} (h : l.opened files = .ok state)
    (hpath : l.path? files.folder = some path) (hdb : state.content = some db) :
    files.stored path = .holds (some db) ∨ files.stored path = .missing ∧ db = .empty := by
  unfold Location.opened at h
  unfold Location.path? at hpath
  split at h
  next hplace =>
    rw [hplace] at hpath
    cases hpath
  next name create like hplace =>
    rw [hplace] at hpath
    split at h
    · cases h
    next way hway =>
      -- the way that is gone is the one that the name has
      have hgoal : way.goal = path := by
        obtain ⟨hname, -⟩ := Option.filter_eq_some_iff.1 hway
        simp only [hname, Option.map_some, Option.some.injEq] at hpath
        exact hpath
      subst hgoal
      simp only at h
      split at h
      next content hstored =>
        cases h
        exact .inl (hstored.trans (congrArg _ hdb))
      next hstored =>
        split at h
        · cases h
          exact .inr ⟨hstored, (Option.some.inj hdb).symm⟩
        · cases h
      · cases h

/-- **What is left of a database that was not changed**: its file holds it already, or is missing,
and then the database is empty. -/
theorem stored_of_left? (h : connect files c = .ok state)
    (hleft : Location.left? files.folder c.url state = some (path, db)) :
    files.stored path = .holds (some db) ∨ files.stored path = .missing ∧ db = .empty := by
  obtain ⟨l, hl, hopened⟩ := opened_of_connect h
  rw [Location.left?, hl, Option.bind_some] at hleft
  obtain ⟨path', hpath, hleft⟩ := Option.bind_eq_some_iff.1 hleft
  obtain ⟨db', hdb, heq⟩ := Option.map_eq_some_iff.1 hleft
  obtain ⟨rfl, rfl⟩ := Prod.mk.inj heq
  exact stored_of_opened hopened hpath hdb

end Sqlite

theorem Config.environment_url {env : Environment} {c : Config}
    (h : Config.ofEnvironment env = .ok c) : env "DATABASE_URL" = some c.url := by
  unfold Config.ofEnvironment at h
  split at h
  · cases h
  next url hurl =>
    -- however the dialect is found, the configuration keeps the URL
    dsimp only at h
    split at h <;>
      · obtain ⟨dialect, -, h⟩ := bind_eq_ok.1 h
        cases h
        exact hurl

/-! ### The program -/

namespace Program

open Invocation

/-- **What is known of a run of the program** with some variables, arguments and files. -/
structure RunFacts (environment : Environment) (arguments : List String) (files : Sqlite.Files)
    (i : Invocation Sqlite.Connection) : Prop where
  /-- It succeeds when everything did: it has a configuration, its folder loads completely, its
  database opens, no definition has errors, and every sync succeeds. -/
  succeeds : i.run.succeeded = true ↔ ∃ c entries tables state, i.Begins c entries tables state ∧
    (∀ t ∈ tables, t.errors c.dialect = []) ∧
    ∀ r ∈ syncResults i.backend i.options tables state, ∃ out, r = .ok out
  begins : (∃ c entries tables state, i.Begins c entries tables state) ∨ i.run.state = none
  begun : ∀ c entries tables state, i.Begins c entries tables state →
    i.Facts c entries tables state
  /-- The switch or an argument asks for a plan. -/
  plans : i.options.planOnly = true ↔
    (Options.ofEnvironment environment).planOnly = true ∨ "--plan" ∈ arguments
  /-- Then the file of the database holds what the run leaves already, or was missing and the
  database is empty. -/
  keeps : i.options.planOnly = true → ∀ path db,
    i.run.state.bind (Sqlite.Location.left? files.folder
      ((environment "DATABASE_URL").getD "")) = some (path, db) →
    files.stored path = .holds (some db) ∨ files.stored path = .missing ∧ db = .empty

/-- **A run that only shows its statements leaves the files as they are.** -/
theorem stored_of_planOnly {i : Invocation Sqlite.Connection} {files : Sqlite.Files}
    (hbackend : i.backend = Sqlite.Connection.backend)
    (hconnect : i.connect = Sqlite.connect files) (hplan : i.options.planOnly = true)
    {path : String} {db : Sqlite.Database}
    (hleft : i.run.state.bind (Sqlite.Location.left? files.folder
      ((i.environment "DATABASE_URL").getD "")) = some (path, db)) :
    files.stored path = .holds (some db) ∨ files.stored path = .missing ∧ db = .empty := by
  rcases i.begins_or_ends with ⟨c, entries, tables, state, hbegins⟩ | ⟨-, hnone⟩
  · have hstate : i.run.state = some state :=
      state_of_planOnly hbegins (hbackend ▸ Sqlite.Connection.onlyAnswers) hplan
    have hurl := Config.environment_url hbegins.config
    have hopened := hbegins.opened
    rw [hconnect] at hopened
    rw [hstate, hurl, Option.bind_some, Option.getD_some] at hleft
    exact Sqlite.stored_of_left? hopened hleft
  · rw [hnone] at hleft
    cases hleft

/-- **A run of the program succeeds when everything did**, goes over the definitions without errors,
and leaves the database as it was if it is asked for a plan. -/
theorem run_invocation (environment : Environment) (arguments : List String)
    (folder : String → Except Folder.Absence (List Folder.Entry)) (files : Sqlite.Files) :
    RunFacts environment arguments files (invocation environment arguments folder files) where
  succeeds := succeeded_iff _
  begins := (begins_or_ends _).imp_right And.right
  begun _ _ _ _ hbegins := hbegins.facts Sqlite.Connection.onlyAnswers
  plans := planOnly_iff _
  keeps hplan _ _ hleft := stored_of_planOnly rfl rfl hplan hleft

/-- Variables that name a database in memory. -/
def inMemory : Environment := fun name =>
  if name = "DATABASE_URL" then some "sqlite::memory:" else none

/-- No files. -/
def noFiles : Sqlite.Files := ⟨"/", fun _ => .missing⟩

/-- The source of the table of users. -/
def usersEntry : Folder.Entry :=
  ⟨"user.json", .file
    "[\x22user\x22,null,\x7b\x22email\x22:\x22mail|string|0|20|null|0|null\x22\x7d]".toUTF8⟩

/-- The source of a table that declares a system column. -/
def keyedEntry : Folder.Entry :=
  ⟨"key.json", .file
    "[\x22user\x22,null,\x7b\x22id\x22:\x22key|number|null|null|null|0|null\x22\x7d]".toUTF8⟩

theorem config_inMemory : Config.ofEnvironment inMemory = .ok ⟨.sqlite, "sqlite::memory:"⟩ :=
  eq_ok_of_toOption (by decide +kernel)

theorem connect_noFiles :
    Sqlite.connect noFiles ⟨.sqlite, "sqlite::memory:"⟩ = .ok ⟨some .empty, false⟩ := by
  have hlocation : Sqlite.Location.ofUrl? "sqlite::memory:" = some ⟨.memory, false⟩ := by
    decide +kernel
  rw [Sqlite.connect, if_pos rfl, hlocation]
  rfl

theorem read_usersEntry : Folder.read usersEntry = .ok users :=
  eq_ok_of_toOption (by decide +kernel)

theorem read_keyedEntry : Folder.read keyedEntry = .ok keyedUsers :=
  eq_ok_of_toOption (by decide +kernel)

/-- A run over sources that are read begins with a new database in memory. -/
theorem begins_inMemory (arguments : List String) {entries : List Folder.Entry}
    {tables : List Definition} (hsource : ∀ e ∈ entries, Folder.isSource e = true)
    (hsorted : entries.Pairwise fun a b => a.name ≤ b.name)
    (hread : entries.map Folder.read = tables.map .ok) :
    (invocation inMemory arguments (fun _ => .ok entries) noFiles).Begins
      ⟨.sqlite, "sqlite::memory:"⟩ entries tables ⟨some .empty, false⟩ where
  config := config_inMemory
  folder := rfl
  loaded := by
    rwa [Folder.sources, List.filter_eq_self.2 hsource,
      List.mergeSort_of_pairwise (hsorted.imp decide_eq_true)]
  opened := connect_noFiles

/-- Asked for a plan, a run over the table of users succeeds.  With a definition that has an error
no run does, and asked for a plan it leaves the new database as it is. -/
theorem run_invocation_users :
    (invocation inMemory ["--plan"] (fun _ => .ok [usersEntry]) noFiles).run.succeeded = true ∧
    keyedUsers.errors .sqlite ≠ [] ∧
    (invocation inMemory [] (fun _ => .ok [keyedEntry, usersEntry]) noFiles).run.succeeded =
      false ∧
    (invocation inMemory ["--plan"] (fun _ => .ok [keyedEntry, usersEntry]) noFiles).run.state =
      some ⟨some .empty, false⟩ := by
  have hkeyed : keyedUsers.errors .sqlite ≠ [] := by decide +kernel
  have hboth : ∀ arguments,
      (invocation inMemory arguments (fun _ => .ok [keyedEntry, usersEntry]) noFiles).Begins
        ⟨.sqlite, "sqlite::memory:"⟩ [keyedEntry, usersEntry] [keyedUsers, users]
        ⟨some .empty, false⟩ := fun arguments =>
    begins_inMemory arguments (by decide +kernel) (by simp [keyedEntry, usersEntry])
      (by rw [List.map_cons, List.map_cons, read_keyedEntry, read_usersEntry]; rfl)
  refine ⟨?_, hkeyed, ?_, ?_⟩
  · refine (run_invocation inMemory ["--plan"] _ noFiles).succeeds.2 ⟨_, _, [users], _,
      begins_inMemory ["--plan"] (by decide +kernel) (List.pairwise_singleton ..)
        (by rw [List.map_cons, read_usersEntry]; rfl), by decide +kernel, ?_⟩
    have hall : (syncResults Sqlite.Connection.backend
        (invocation inMemory ["--plan"] (fun _ => .ok [usersEntry]) noFiles).options [users]
        ⟨some .empty, false⟩).all (·.toOption.isSome) = true := by decide +kernel
    intro r hr
    obtain ⟨out, hout⟩ := Option.isSome_iff_exists.1 (List.all_eq_true.1 hall r hr)
    exact ⟨out, eq_ok_of_toOption hout⟩
  · refine Bool.eq_false_iff.2 fun h => hkeyed ?_
    exact ((succeeded_of_begins (hboth [])).1 h).1 _ (List.mem_cons_self ..)
  · have hfacts :=
      run_invocation inMemory ["--plan"] (fun _ => .ok [keyedEntry, usersEntry]) noFiles
    refine (hfacts.begun _ _ _ _ (hboth ["--plan"])).plans ?_
    exact hfacts.plans.2 (.inr (List.mem_cons_self ..))

end Program

end Conform

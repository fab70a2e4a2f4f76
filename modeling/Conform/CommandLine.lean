/-
**The command line: a run from its settings to its summary.**

A run reads its configuration and its switches, loads the definitions of a folder, sets aside
those that are not valid, connects, and syncs the valid ones.  It succeeds if nothing was set aside
and every table was synced.
-/

import Conform.Definition.Folder
import Conform.Settings.Environment
import Conform.Sync.Run

set_option relaxedAutoImplicit false
set_option autoImplicit false

namespace Conform

variable {σ : Type}

/-- **What a run is given**: variables, arguments, folders by path, and a way to connect. -/
structure Invocation (σ : Type) where
  environment : Environment
  arguments : List String
  folder : String → Except Folder.Absence (List Folder.Entry)
  backend : Backend σ
  connect : Config → Except BackendError σ

/-- **Why a run ends before its first table.** -/
inductive FatalError
  | config (e : ConfigError)
  | load (folder : String) (e : LoadError)
  | connect (e : BackendError)
  deriving DecidableEq, Repr

def FatalError.message : FatalError → String
  | config e => e.message
  | load folder e => e.message folder
  | connect e => e.message

/-- **What a run came to**: whether it succeeded, its log, and the database, if it connected. -/
structure Ending (σ : Type) where
  succeeded : Bool
  log : Log
  state : Option σ

namespace Invocation

/-- The switches: an argument may ask for a plan too. -/
def options (i : Invocation σ) : Options :=
  let o := Options.ofEnvironment i.environment
  { o with planOnly := o.planOnly || i.arguments.contains "--plan" }

def folderName (i : Invocation σ) : String := (i.environment "SCHEMA_DIR").getD "schema"

def definitions (i : Invocation σ) : Except LoadError (List Definition) :=
  match i.folder i.folderName with
  | .error why => .error (.folder why)
  | .ok entries => Folder.load entries

/-- **The definitions without errors in a dialect.** -/
def valid (d : Dialect) (tables : List Definition) : List Definition :=
  tables.filter fun t => (t.errors d).isEmpty

def errorLog (d : Dialect) (tables : List Definition) : Log :=
  (tables.flatMap (·.errors d)).map fun e => ⟨.error, .run, e.message⟩

def loadedEntry (folder : String) (all invalid : Nat) (planOnly : Bool) : Entry :=
  let mode := if planOnly then "plan" else "apply"
  ⟨.info, .run,
    s!"{all} table definitions loaded from {folder} ({invalid} invalid, {mode} mode)"⟩

def fatal (log : Log) (e : FatalError) : Ending σ :=
  ⟨false, log ++ [⟨.error, .run, e.message⟩], none⟩

def runLoaded (i : Invocation σ) (c : Config) (tables : List Definition) : Ending σ :=
  let d := c.dialect
  let good := valid d tables
  let invalid := tables.length - good.length
  let log := errorLog d tables ++
    [loadedEntry i.folderName tables.length invalid i.options.planOnly]
  match i.connect c with
  | .error e => fatal log (.connect e)
  | .ok state =>
      let (summary, journal) := syncAll i.backend i.options good ⟨state, log⟩
      { succeeded := summary.isSuccess && invalid == 0
        log := journal.log ++ [⟨.info, .run, summary.text⟩]
        state := some journal.state }

/-- **The run.** -/
def run (i : Invocation σ) : Ending σ :=
  match Config.ofEnvironment i.environment with
  | .error e => fatal [] (.config e)
  | .ok c =>
      match i.definitions with
      | .error e => fatal [] (.load i.folderName e)
      | .ok tables => i.runLoaded c tables

end Invocation

end Conform

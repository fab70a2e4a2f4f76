/-
**Settings read from the environment.**
-/

import Conform.Options
import Conform.Text.Blank

set_option relaxedAutoImplicit false
set_option autoImplicit false

namespace Conform

/-- **The variables that are set, by name.** -/
abbrev Environment : Type := String → Option String

/-- **Why a run has no database.** -/
inductive ConfigError
  | unknownDialect (name : String)
  | noScheme (url : String)
  | noUrl
  deriving DecidableEq, Repr

def ConfigError.message : ConfigError → String
  | unknownDialect name => s!"Configuration error: unknown database type `{name}`"
  | noScheme url => s!"Configuration error: cannot infer database type from `{url}`"
  | noUrl => "Configuration error: DATABASE_URL must be set"

/-! ### The database -/

/-- **The dialect that a name stands for**, in any letter case and with blanks around it. -/
def Dialect.read (name : String) : Except ConfigError Dialect :=
  let plain := Text.lowercase (Text.strip name)
  match Dialect.ofName? plain with
  | some d => .ok d
  | none => .error (.unknownDialect plain)

/-- **The dialect of a connection URL**: the name before its first colon. -/
def Dialect.ofUrl (url : String) : Except ConfigError Dialect :=
  match Text.cut ':' url.toList with
  | none => .error (.noScheme url)
  | some (scheme, _) => Dialect.read (String.ofList scheme)

/-- **Which database a run is for.** -/
structure Config where
  dialect : Dialect
  url : String
  deriving DecidableEq, Repr

/-- The database that the environment names; a dialect that is set wins over that of the URL. -/
def Config.ofEnvironment (env : Environment) : Except ConfigError Config :=
  match env "DATABASE_URL" with
  | none => .error .noUrl
  | some url => do
      let dialect ← match env "DB_TYPE" with
        | some name => Dialect.read name
        | none => Dialect.ofUrl url
      return ⟨dialect, url⟩

/-! ### The switches -/

def isOn (text : String) : Bool :=
  Text.lowercase (Text.strip text) ∈ ["1", "true", "yes", "on"]

def switch (env : Environment) (name : String) (unset : Bool) : Bool :=
  ((env name).map isOn).getD unset

/-- **The switches that the environment sets.** -/
def Options.ofEnvironment (env : Environment) : Options :=
  let usual : Options := {}
  { planOnly := switch env "SYNC_PLAN" usual.planOnly
    allowShrink := switch env "SYNC_ALLOW_SHRINK" usual.allowShrink
    comments := switch env "SYNC_PG_COMMENTS" usual.comments
    engine :=
      { engine := (env "MYSQL_ENGINE").getD usual.engine.engine
        charset := (env "MYSQL_CHARSET").getD usual.engine.charset } }

end Conform

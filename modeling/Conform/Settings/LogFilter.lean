/-
**Which entries of the log are shown.**

A filter is a list of directives with commas between them: a level, the beginning of the path of an
origin, or both with an equals sign between them.  The directive with the longest name that fits
the origin of an entry decides.  After a slash there may be a pattern that the text of an entry has
to hold.  Parts that cannot be read are left out with a complaint.
-/

import Conform.Log
import Conform.Settings.Environment
import Conform.Text.Pattern.Refusal

set_option relaxedAutoImplicit false
set_option autoImplicit false

namespace Conform

/-- **A name and the rank of the least important level that is shown for it.**  Without a name it is
for every origin. -/
structure LogFilter.Directive where
  name : Option (List Char)
  rank : Nat
  deriving DecidableEq, Repr

/-- **A filter of the log.** -/
structure LogFilter where
  directives : List LogFilter.Directive
  pattern : Option Text.Pattern := none
  deriving DecidableEq, Repr

namespace LogFilter

/-! ### Directives -/

def everything : Nat := 5

def rank? (word : List Char) : Option Nat :=
  let word := String.ofList (Text.lower word)
  if word = "off" then some 0
  else if word = "error" then some Level.error.rank
  else if word = "warn" then some Level.warn.rank
  else if word = "info" then some Level.info.rank
  else if word = "debug" then some Level.debug.rank
  else if word = "trace" then some everything
  else none

/-- **Why a part of a filter is left out.** -/
inductive Complaint
  /-- There is more than one slash. -/
  | slashes (text : String)
  /-- The part is no directive, or names no level. -/
  | directive (text : String)
  | pattern (text : String) (why : Text.Pattern.Refusal)
  deriving DecidableEq, Repr

def Complaint.text : Complaint → String
  | slashes text => s!"invalid logging spec '{text}' (too many '/'s)"
  | directive text => s!"invalid logging spec '{text}'"
  | pattern text why => s!"invalid regex filter - {why.message text}"

def Complaint.line (c : Complaint) : String := s!"warning: {c.text}, ignoring it"

def readDirective (part : List Char) : Except Complaint Directive :=
  match Text.splitUpTo '=' 3 part with
  | [word] =>
      .ok (match rank? word with
        | some rank => ⟨none, rank⟩
        | none => ⟨some word, everything⟩)
  | [name, level] =>
      match Text.trim level with
      | [] => .ok ⟨some name, everything⟩
      | level =>
          match rank? level with
          | some rank => .ok ⟨some name, rank⟩
          | none => .error (.directive (String.ofList level))
  | _ => .error (.directive (String.ofList part))

/-- Some directives and one more, in place of one with the same name if there is one. -/
def insert (directives : List Directive) (d : Directive) : List Directive :=
  if directives.any (·.name = d.name) then
    directives.map fun e => if e.name = d.name then d else e
  else directives ++ [d]

/-! ### Filters -/

/-- The filter of some directives; without any, only errors are shown. -/
def ofDirectives (directives : List Directive) (pattern : Option Text.Pattern) : LogFilter :=
  match directives.foldl insert [] with
  | [] => ⟨[⟨none, Level.error.rank⟩], pattern⟩
  | directives => ⟨directives, pattern⟩

def complaints {α : Type} (results : List (Except Complaint α)) : List Complaint :=
  results.filterMap fun
    | .ok _ => none
    | .error e => some e

def readPattern (s : List Char) : Except Complaint Text.Pattern :=
  let text := String.ofList s
  (Text.Pattern.read text).mapError (.pattern text)

def readDirectives (s : List Char) : List (Except Complaint Directive) :=
  (((s.splitOn ',').map Text.trim).filter (· ≠ [])).map readDirective

def ofResults (results : List (Except Complaint Directive)) (pattern : Option Text.Pattern) :
    LogFilter := ofDirectives (results.filterMap (·.toOption)) pattern

/-- **The filter that a text is**, with the complaints about what is left out. -/
def read (text : String) : LogFilter × List Complaint :=
  match text.toList.splitOn '/' with
  | [s] => (ofResults (readDirectives s) none, complaints (readDirectives s))
  | [s, after] =>
      let results := readDirectives s
      match readPattern after with
      | .ok p => (ofResults results p, complaints results)
      | .error e => (ofResults results none, complaints results ++ [e])
  | _ => (ofDirectives [] none, [.slashes text])

/-- The directive that decides, of one found so far and the next: a later one wins over one that is
not longer. -/
def stronger (path : List Char) (found : Option Directive) (next : Directive) : Option Directive :=
  let name := next.name.getD []
  if name.isPrefixOf path then
    match found with
    | some d => if name.length < (d.name.getD []).length then found else some next
    | none => some next
  else found

def deciding? (f : LogFilter) (o : Origin) : Option Directive :=
  f.directives.foldl (stronger o.path.toList) none

/-- **Whether an entry is shown.** -/
def shows (f : LogFilter) (e : Entry) : Bool :=
  (f.deciding? e.origin).any (e.level.rank ≤ ·.rank) &&
    f.pattern.all (·.isFoundIn e.text.toList)

/-- The filter that the environment sets; without one, everything down to information is shown. -/
def ofEnvironment (env : Environment) : LogFilter × List Complaint :=
  read ((env "RUST_LOG").getD "info")

end LogFilter

end Conform

/-
**Where a SQLite database is.**

A connection URL names a file and says with parameters how it is to be opened: whether it may be
written, whether it is made if it is missing, or whether the database is in memory only.  A name
that begins with `file:` is itself a URI, with parameters of its own.

Main definitions:

* `Location.Opening` — how a database is to be opened;
* `Sqlite.Location` — memory or a file, and whether the database may only be read;
* `Location.ofUrl?` — **the database that a connection URL names**;
* `Sqlite.Files` — what there is at a path;
* `Location.opened` — what opening a database comes to, given what is in files;
* `Sqlite.connect` — the database that a configuration opens.
-/

import Conform.Settings.Environment
import Conform.Sqlite.Connection
import Conform.Sqlite.Way
import Conform.Text.Percent

set_option relaxedAutoImplicit false
set_option autoImplicit false

namespace Conform

namespace Sqlite

namespace Location

/-! ### Openings -/

inductive Access
  | read
  | write
  /-- The file is written, and made if it is missing. -/
  | create
  deriving DecidableEq, Repr

/-- The rank of an access; an access allows those of lower rank. -/
def Access.rank : Access → Nat
  | read => 1
  | write => 2
  | create => 3

/-- **How a database is to be opened.** -/
structure Opening where
  name : String
  access : Access := .write
  inMemory : Bool := false
  /-- The file is taken never to change, so that it can only be read. -/
  fixed : Bool := false
  /-- The name of the system of files, if one is named. -/
  system : Option String := none
  /-- The file whose permissions a new file gets, if one is named. -/
  like : Option String := none
  deriving DecidableEq, Repr

/-! ### Parameters of a URL -/

structure Wishes where
  readOnly : Bool := false
  create : Bool := false
  inMemory : Bool := false
  fixed : Bool := false
  system : Option String := none
  deriving DecidableEq, Repr

def truth? (text : String) : Option Bool :=
  if text = "true" ∨ text = "1" then some true
  else if text = "false" ∨ text = "0" then some false
  else none

/-- The effect of one parameter; none if it is not known.  Like the empty name, one that is no text
names no system of files. -/
def Wishes.parameter (w : Wishes) : Option String × Option String → Option Wishes
  | (some "mode", some "ro") => some { w with readOnly := true }
  | (some "mode", some "rw") => some w
  | (some "mode", some "rwc") => some { w with create := true }
  | (some "mode", some "memory") => some { w with inMemory := true }
  | (some "cache", some "private") | (some "cache", some "shared") => some w
  | (some "immutable", some value) => (truth? value).map fun b => { w with fixed := b }
  | (some "vfs", value) => some { w with system := some (value.getD "") }
  | _ => none

def Wishes.access (w : Wishes) : Access :=
  if w.readOnly then .read else if w.create then .create else .write

def Wishes.areFurther (w : Wishes) : Bool := w.fixed || w.system.isSome

/-! ### Names that are URIs -/

def beforeNul (s : String) : String := String.ofList (Text.before '\x00' s.toList)

/-- The text that a part of a URI stands for; it ends at its first NUL. -/
def uriText? (s : List Char) : Option String := (Text.percentDecode? s).map beforeNul

def uriParameter? (part : List Char) : Option (String × String) :=
  match Text.cut '=' part with
  | some (name, value) => (uriText? name).bind fun n => (uriText? value).map fun v => (n, v)
  | none => (uriText? part).map fun n => (n, "")

/-- The number that a text of digits begins with, which may be hexadecimal; if it has more than 31
bits, it counts as zero. -/
def leadingNumber (s : List Char) : Nat :=
  let n := match s with
    | '0' :: x :: c :: rest =>
        if (x = 'x' ∨ x = 'X') ∧ Text.isHexDigit c then
          Text.hexValue ((c :: rest).takeWhile Text.isHexDigit)
        else Nat.ofDigitChars 10 (s.takeWhile Char.isDigit) 0
    | _ => Nat.ofDigitChars 10 (s.takeWhile Char.isDigit) 0
  if n ≤ 0x7FFFFFFF then n else 0

/-- Whether the value of a parameter turns it on; of a number only the lowest byte counts. -/
def isTrue (value : String) : Bool :=
  match value.toList with
  | c :: s =>
      if c.isDigit then leadingNumber (c :: s) % 256 ≠ 0
      else Text.lowercase value ∈ ["on", "yes", "true"]
  | [] => false

/-- The opening with another access, if the one it has allows it. -/
def Opening.restrict (o : Opening) (a : Access) : Option Opening :=
  if o.inMemory ∨ a.rank ≤ o.access.rank then some { o with access := a, inMemory := false }
  else none

/-- The effect of a parameter of a URI, of which the last one of its name counts; those that are
not known have none. -/
def Opening.parameter (o : Opening) : String × String → Option Opening
  | ("mode", "ro") => o.restrict .read
  | ("mode", "rw") => o.restrict .write
  | ("mode", "rwc") => o.restrict .create
  | ("mode", "memory") => some { o with access := .write, inMemory := true }
  | ("mode", _) => none
  | ("cache", "private") | ("cache", "shared") => some o
  | ("cache", _) => none
  | ("vfs", value) => some { o with system := some value }
  | _ => some o

/-- The effect of the parameters of a URI of which the first one of its name counts. -/
def Opening.flags (o : Opening) (parameters : List (String × String)) : Opening :=
  { o with fixed := (parameters.lookup "immutable").any isTrue, like := parameters.lookup "modeof" }

/-- The part of a URI after its authority, which is empty or the machine itself. -/
def afterAuthority? (s : List Char) : Option (List Char) :=
  match s with
  | '/' :: '/' :: rest =>
      let authority := Text.before '/' rest
      if authority = [] ∨ String.ofList authority = "localhost" then
        some (rest.drop authority.length)
      else none
  | _ => some s

/-- The opening that a name asks for: one that begins with `file:` is a URI. -/
def Opening.resolve (o : Opening) : Option Opening :=
  if "file:".toList.isPrefixOf o.name.toList then
    (afterAuthority? (o.name.toList.drop 5)).bind fun s =>
      let s := Text.before '#' s
      let parts := match Text.cut '?' s with
        | some (path, parameters) => (path, parameters.splitOn '&')
        | none => (s, [])
      (uriText? parts.1).bind fun path =>
        (parts.2.mapM uriParameter?).bind fun all =>
          let parameters := all.filter (·.1 ≠ "")
          parameters.foldlM Opening.parameter ({ o with name := path }.flags parameters)
  else some o

/-- The opening that wishes for a name ask for.  What only a URI can say is said by one in which the
name and the wishes are encoded, so that they stand for themselves up to their first NUL;
otherwise the name may be a URI, but it may not hold a NUL. -/
def Wishes.opening? (w : Wishes) (name : String) : Option Opening :=
  let o : Opening := { name := name, access := w.access, inMemory := w.inMemory }
  if w.areFurther then
    some { o with name := beforeNul name, fixed := w.fixed, system := w.system.map beforeNul }
  else if hasNul name then none
  else o.resolve

/-- The systems of files that there are; the last one is memory. -/
def systems : List String := ["unix", "unix-none", "unix-dotfile", "unix-excl", "memdb"]

end Location

/-! ### Locations -/

inductive Place
  | memory
  /-- The file of a name, which may be made; new files get the permissions of another one. -/
  | file (name : String) (create : Bool) (like : Option String)
  deriving DecidableEq, Repr

/-- **Where a database is**, and whether it may only be read. -/
structure Location where
  place : Place
  readOnly : Bool
  deriving DecidableEq, Repr

namespace Location

/-- The bytes of a name that are too many in the system of files that is memory. -/
def memoryNameLimit : Nat := 1017

/-- The location of an opening, if its system of files is known.  A file without a name is one of
its own for each connection, like memory. -/
def ofOpening? (o : Opening) : Option Location :=
  let onlyRead : Bool := o.access = .read
  if !o.system.all systems.contains then none
  else if o.inMemory ∨ o.name = "" ∨ o.name = ":memory:" then some ⟨.memory, onlyRead⟩
  else if o.system = some "memdb" then
    if o.name.utf8ByteSize < memoryNameLimit then some ⟨.memory, onlyRead || o.fixed⟩ else none
  else some ⟨.file o.name (o.access = .create) o.like, onlyRead || o.fixed⟩

def memoryName : String := "file:memory"

/-- **The database that a connection URL names**, if its parameters are understood. -/
def ofUrl? (url : String) : Option Location := do
  let rest := Text.dropRepeated "sqlite:".toList (Text.dropRepeated "sqlite://".toList url.toList)
  let (name, parameters) := match Text.cut '?' rest with
    | some (name, s) => (name, Text.parameters s)
    | none => (rest, [])
  let inMemory := String.ofList name = ":memory:"
  let name ← if inMemory then some memoryName else Text.percentDecode? name
  let wishes ← parameters.foldlM Wishes.parameter { inMemory := inMemory }
  ofOpening? (← wishes.opening? name)

end Location

/-! ### Files -/

/-- **What there is at a path.** -/
inductive Stored
  /-- Nothing, but a file can be made there. -/
  | missing
  /-- Nothing, and no folder to make a file in. -/
  | lost
  | folder
  /-- The path leads through a file, or a name in it is too long. -/
  | unreachable
  /-- A file, and the database that it holds, if it holds one. -/
  | holds (content : Option Database)

namespace Stored

/-- What a file is that no database was written to: with at most one byte it is an empty one. -/
def foreign (size : Nat) : Stored := holds (if size ≤ 1 then some .empty else none)

/-- Whether the path can be followed as far as there is anything. -/
def isReachable : Stored → Bool
  | unreachable => false
  | _ => true

def isThere : Stored → Bool
  | folder | holds _ => true
  | _ => false

end Stored

/-- **The files of a program**: its folder, and what there is at a path. -/
structure Files where
  folder : String
  stored : String → Stored

namespace Location

def paths (folder : String) (l : Location) : List String :=
  match l.place with
  | .memory => []
  | .file name _ like => ((Way.ofName? folder name).map (·.passed)).getD [] ++ like.toList

/-- The way to a file, if it can be gone, and the file whose permissions are asked for is there. -/
def way? (files : Files) (name : String) (like : Option String) : Option Way :=
  (Way.ofName? files.folder name).filter fun way =>
    way.passed.all (fun path => (files.stored path).isReachable) &&
      like.all fun path => (files.stored path).isThere

def closed : Except BackendError Connection :=
  .error (.connection "unable to open database file")

/-- **The database at a location**, given what is in files; the one in memory is always new.
Without a journal a file can only be read. -/
def opened (files : Files) (l : Location) : Except BackendError Connection :=
  match l.place with
  | .memory => .ok ⟨some .empty, l.readOnly⟩
  | .file name create like =>
      match way? files name like with
      | none => closed
      | some way =>
          let readOnly := l.readOnly || !way.hasJournal
          match files.stored way.goal with
          | .holds content => .ok ⟨content, readOnly⟩
          | .missing => if create then .ok ⟨some .empty, readOnly⟩ else closed
          | _ => closed

def path? (folder : String) (l : Location) : Option String :=
  match l.place with
  | .memory => none
  | .file name _ _ => (Way.ofName? folder name).map (·.goal)

/-- The file that a run leaves a database in: its path, and what it holds then. -/
def left? (folder url : String) (c : Connection) : Option (String × Database) :=
  (ofUrl? url).bind fun l => (l.path? folder).bind fun path => c.content.map (path, ·)

end Location

/-- **The database that a configuration opens**, given what is in files. -/
def connect (files : Files) (c : Config) : Except BackendError Connection :=
  if c.dialect = .sqlite then
    match Location.ofUrl? c.url with
    | some l => l.opened files
    | none => .error (.connection s!"{c.url} names no database")
  else .error (.connection s!"no server for {c.dialect.name}")

end Sqlite

end Conform

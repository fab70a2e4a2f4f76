/-
**Ways to files.**

The name of a database file is a way: its parts are entered one after another, from the root if the
name begins with a slash, and otherwise from the folder of the program.  A step up leaves the part
that was entered last, whatever there is, so a way may lead through a folder that does not exist.
The paths on a way have only so many bytes, and beside the file there has to be room for its
journal, whose name is longer.
-/

set_option relaxedAutoImplicit false
set_option autoImplicit false

namespace Conform

namespace Sqlite

/-- **A way to a file**: the paths that it passes, with the file's own path. -/
structure Way where
  passed : List String
  goal : String
  hasJournal : Bool
  deriving DecidableEq, Repr

namespace Way

/-- The parts of a name that lead on: empty parts and single points do not. -/
def parts (name : String) : List String :=
  ((name.toList.splitOn '/').map String.ofList).filter fun p => p ≠ "" && p ≠ "."

def fromRoot (folder name : String) : List String :=
  if name.toList.head? = some '/' then parts name else parts folder ++ parts name

/-- A place after one more part; a place is the parts that lead there, last one first. -/
def enter (place : List String) (part : String) : List String :=
  if part = ".." then place.tail else part :: place

/-- **The places on a way**, after a first one. -/
def places (place : List String) : List String → List (List String)
  | [] => []
  | part :: rest => enter place part :: places (enter place part) rest

/-- **The place where a way ends.** -/
def target (place parts : List String) : List String := parts.foldl enter place

def path (place : List String) : String := "/" ++ "/".intercalate place.reverse

/-- The bytes of a path that are too many. -/
def pathLimit : Nat := 512

def nameLimit : Nat := 255

def journalBytes : Nat := "-journal".utf8ByteSize

/-- **The way to the file of a name**, if it is not the root and the paths are short enough. -/
def ofName? (folder name : String) : Option Way :=
  let parts := fromRoot folder name
  let passed := (places [] parts).map path
  match target [] parts with
  | [] => none
  | last :: rest =>
      let goal := path (last :: rest)
      if passed.all (·.utf8ByteSize < pathLimit) ∧
          goal.utf8ByteSize + journalBytes ≤ pathLimit then
        some ⟨passed, goal, last.utf8ByteSize + journalBytes ≤ nameLimit⟩
      else none

end Way

end Sqlite

end Conform

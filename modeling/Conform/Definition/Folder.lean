/-
**Loading all definitions of a folder.**

A folder is given by its entries in the order in which it lists them.  Every entry with the
extension `json` is a source, directories among them, which cannot be read.  Sources are taken in
the order of their names, and the first one that fails is the error.
-/

import Conform.Definition.Source

set_option relaxedAutoImplicit false
set_option autoImplicit false

namespace Conform

namespace Folder

/-- What an entry of a folder is.  Files that fail to be read for another reason are left out: those
that the user may not read, and links that lead nowhere. -/
inductive Content
  | file (bytes : ByteArray)
  | directory
  /-- The path of the entry is too long. -/
  | unreachable

/-- **An entry of a folder.**  Entries whose names are not UTF-8 are left out. -/
structure Entry where
  name : String
  content : Content

inductive Absence
  | missing
  | notDirectory
  /-- A name on the way to the folder, or the whole path, is too long. -/
  | nameTooLong
  deriving DecidableEq, Repr

def Absence.reason : Absence → String
  | missing => "No such file or directory (os error 2)"
  | notDirectory => "Not a directory (os error 20)"
  | nameTooLong => "File name too long (os error 36)"

end Folder

inductive SourceFault
  | directory
  | unreachable
  | encoding
  | content
  deriving DecidableEq, Repr

def SourceFault.reason : SourceFault → String
  | directory => "Is a directory (os error 21)"
  | unreachable => Folder.Absence.nameTooLong.reason
  | encoding => "stream did not contain valid UTF-8"
  | content => "not a table definition"

/-- **Why loading fails.** -/
inductive LoadError
  | folder (why : Folder.Absence)
  | source (name : String) (fault : SourceFault)
  deriving DecidableEq, Repr

namespace Folder

def path (folder name : String) : String :=
  if folder = "" ∨ folder.toList.getLast? = some '/' then folder ++ name
  else folder ++ "/" ++ name

end Folder

def LoadError.message (folder : String) : LoadError → String
  | .folder why => s!"Definition error: {folder}: {why.reason}"
  | source name fault => s!"Definition error: {Folder.path folder name}: {fault.reason}"

namespace Folder

def extension : List Char := ['.', 'j', 's', 'o', 'n']

/-- **Whether an entry is a source**: its name ends with the extension and is longer than it. -/
def isSource (e : Entry) : Bool :=
  extension.isSuffixOf e.name.toList && extension.length < e.name.toList.length

def read (e : Entry) : Except LoadError Definition :=
  match e.content with
  | .directory => .error (.source e.name .directory)
  | .unreachable => .error (.source e.name .unreachable)
  | .file bytes =>
      match String.fromUTF8? bytes with
      | none => .error (.source e.name .encoding)
      | some source =>
          match Definition.ofSource? source with
          | none => .error (.source e.name .content)
          | some t => .ok t

/-- The sources among the entries, in the order of their names. -/
def sources (entries : List Entry) : List Entry :=
  (entries.filter isSource).mergeSort fun a b => decide (a.name ≤ b.name)

/-- **The definitions of a folder**, or the error of its first source that fails. -/
def load (entries : List Entry) : Except LoadError (List Definition) :=
  firstError ((sources entries).map read)

end Folder

end Conform

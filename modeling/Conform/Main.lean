/-
**The program.**

Variables, files and folders are read, the run is computed, its log is printed, and the database
is written back if it is in a file.
-/

import Conform.CommandLine
import Conform.Settings.Dotenv
import Conform.Settings.LogFilter
import Conform.Sqlite.Location
import Conform.Sqlite.Script

set_option relaxedAutoImplicit false
set_option autoImplicit false

namespace Conform

namespace Program

def settingNames : List String :=
  ["DATABASE_URL", "DB_TYPE", "SCHEMA_DIR", "SYNC_PLAN", "SYNC_ALLOW_SHRINK", "SYNC_PG_COMMENTS",
    "MYSQL_ENGINE", "MYSQL_CHARSET", "RUST_LOG"]

def readEnvironment (names : List String) : IO Environment := do
  let mut found : List (String × String) := []
  for name in names do
    if let some value ← IO.getEnv name then
      found := (name, value) :: found
  let entries := found
  return fun name => entries.lookup name

def dotenvLines : IO (List (List Char)) := do
  try
    return Dotenv.lines (← IO.FS.readBinFile ".env").toList
  catch _ => return []

def absence : IO.Error → Folder.Absence
  | .noFileOrDirectory .. => .missing
  | .inappropriateType .. => .notDirectory
  -- every other failure is taken for a path that is too long
  | _ => .nameTooLong

/-- What the entry of a folder is; only sources are read. -/
def readContent (e : IO.FS.DirEntry) : IO Folder.Content := do
  try
    if (← e.path.metadata).type == .dir then return .directory
    if Folder.isSource ⟨e.fileName, .directory⟩ then return .file (← IO.FS.readBinFile e.path)
    return .file .empty
  catch _ => return .unreachable

def readFolder (folder : String) : IO (Except Folder.Absence (List Folder.Entry)) := do
  try
    let mut entries : List Folder.Entry := []
    for e in ← (System.mkFilePath [folder]).readDir do
      entries := ⟨e.fileName, ← readContent e⟩ :: entries
    return .ok entries
  catch e => return .error (absence e)

def readStored (path : String) : IO Sqlite.Stored := do
  let file := System.mkFilePath [path]
  try
    if (← file.metadata).type == .dir then return .folder
    let bytes ← IO.FS.readBinFile file
    match (String.fromUTF8? bytes).map Sqlite.Database.ofScript with
    | some (.ok db) => return .holds (some db)
    | _ => return .foreign bytes.size
  catch e =>
    if absence e ≠ .missing then return .unreachable
    let folder := file.parent.getD file
    return if ← folder.isDir then .missing else .lost

def logLine (e : Entry) : String := s!"[{e.level.name}] {e.text}"

/-- **The run of the program**, given its variables, its arguments, folders and files. -/
def invocation (environment : Environment) (arguments : List String)
    (folder : String → Except Folder.Absence (List Folder.Entry)) (files : Sqlite.Files) :
    Invocation Sqlite.Connection where
  environment := environment
  arguments := arguments
  folder := folder
  backend := Sqlite.Connection.backend
  connect := Sqlite.connect files

def start (arguments : List String) : IO UInt32 := do
  let lines ← dotenvLines
  let outer ← readEnvironment (settingNames ++ Dotenv.mentioned lines)
  let env := Dotenv.load outer lines
  let entries ← readFolder ((env "SCHEMA_DIR").getD "schema")
  let url := (env "DATABASE_URL").getD ""
  let folder := (← IO.currentDir).toString
  let mut found : List (String × Sqlite.Stored) := []
  for path in ((Sqlite.Location.ofUrl? url).map (·.paths folder)).getD [] do
    found := (path, ← readStored path) :: found
  let known := found
  let files : Sqlite.Files := ⟨folder, fun path => (known.lookup path).getD .missing⟩
  let ending := (invocation env arguments (fun _ => entries) files).run
  if let some (path, db) := ending.state.bind (Sqlite.Location.left? folder url) then
    IO.FS.writeFile path db.script
  let (filter, complaints) := LogFilter.ofEnvironment env
  for c in complaints do
    IO.eprintln c.line
  for e in ending.log.filter filter.shows do
    IO.eprintln (logLine e)
  return if ending.succeeded then 0 else 1

end Program

end Conform

/-- **The program.** -/
def main (arguments : List String) : IO UInt32 := Conform.Program.start arguments

/-
**Open databases.**

A database that was opened may be read only, and the file that it is in may turn out to hold no
database.  Opening such a file succeeds, and every call after it fails.
-/

import Conform.Sqlite.Backend

set_option relaxedAutoImplicit false
set_option autoImplicit false

namespace Conform

namespace Sqlite

/-- **An open database**: what it holds, if it is a database, and whether it may only be read. -/
structure Connection where
  content : Option Database
  readOnly : Bool

namespace Connection

def ask {α : Type} (call : Database → Answer Database α) (c : Connection) : Answer Connection α :=
  match c.content with
  | some db => ((call db).1, { c with content := some (call db).2 })
  | none => (.error (.database "file is not a database"), c)

/-- **The backend of an open database.** -/
def backend : Backend Connection where
  dialect := Sqlite.backend.dialect
  tableExists table := ask (Sqlite.backend.tableExists table)
  columns table := ask (Sqlite.backend.columns table)
  indexes table := ask (Sqlite.backend.indexes table)
  execute sql c :=
    if c.readOnly then (.error (.database "attempt to write a readonly database"), c)
    else ask (Sqlite.backend.execute sql) c

end Connection

end Sqlite

end Conform

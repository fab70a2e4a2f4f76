/-
**Declarations of tables.**

A column is declared by its name, a type and constraints, which are texts that somebody wrote.  The
columns are read together, so that a text may also end its column and declare others, or end the
statement and begin others.  Statements have their effect one after the other, up to the first that
fails.
-/

import Conform.Sqlite.Declaration.Wording

set_option relaxedAutoImplicit false
set_option autoImplicit false

namespace Conform

namespace Sqlite

/-! ### Texts of declarations -/

/-- **A column as it is declared.** -/
structure ColumnText where
  name : String
  type : String
  notNull : Bool
  default : Option String
  deriving DecidableEq, Repr

def quotedName (name : String) : String :=
  String.ofList ('\x60' :: (Text.double '\x60' name.toList ++ ['\x60']))

def ColumnText.text (c : ColumnText) : String :=
  let default := c.default.elim "" (" DEFAULT " ++ ·)
  s!"{quotedName c.name} {c.type}" ++ (if c.notNull then " NOT NULL" else "") ++ default

def declarationText (table : String) (columns : List ColumnText) : String :=
  s!"CREATE TABLE {quotedName table} (" ++ ", ".intercalate (columns.map (·.text)) ++ ")"

/-! ### Running texts -/

namespace Database

def runLexemes (db : Database) (ls : List Lexeme) : Except SchemaError Database :=
  match Wording.ofLexemes? ls with
  | none => .error .unreadable
  | some w => w.run db

/-- **The effect of the statements of a text**, at most `n` of them, up to the first that fails. -/
def runText : Nat → Database → List Char → Except SchemaError Unit × Database
  | 0, db, _ => (.error .unreadable, db)
  | n + 1, db, s =>
      match Lexeme.scan s with
      | none => (.error .unreadable, db)
      | some ([], _) => (.ok (), db)
      | some (l :: ls, rest) =>
          if l.reads ";" then runText n db rest
          else match runLexemes db (l :: ls) with
            | .error e => (.error e, db)
            | .ok db => runText n db rest

/-- **A new table** from the declarations of its columns.  A text with a NUL ends there, inside its
statement. -/
def declareTable (db : Database) (table : String) (columns : List ColumnText) :
    Except SchemaError Unit × Database :=
  let text := declarationText table columns
  if hasNul text then (.error .unreadable, db) else db.runText (text.length + 1) text.toList

end Database

end Sqlite

end Conform

/-
**Definitions read from their source texts.**

A source is a JSON object with the members `table`, `comment` and `fields`, in any order; other
members are skipped.  The fields are an object from keys to rules, of which order and repetitions
are kept.  The three may also be written as an array.
-/

import Conform.Definition.Basic
import Conform.Json.Value

set_option relaxedAutoImplicit false
set_option autoImplicit false

namespace Conform

namespace Definition

def textOf? : Json → Option String
  | .string (some content) => some (String.ofList content)
  | _ => none

def commentOf? : Json → Option (Option String)
  | .null => some none
  | v => (textOf? v).map some

def fieldOf? (member : Option (List Char) × Json) : Option (String × String) :=
  member.1.bind fun key => (textOf? member.2).map fun rule => (String.ofList key, rule)

def fieldsOf? : Json → Option (List (String × String))
  | .object members => members.mapM fieldOf?
  | _ => none

def valuesAt (key : String) (members : List (Option (List Char) × Json)) : List Json :=
  (members.filter fun m => m.1 == some key.toList).map (·.2)

/-- The definition with the given members.  None of the three may be given twice, and only the
comment may be missing. -/
def ofMembers? (members : List (Option (List Char) × Json)) : Option Definition :=
  if members.all (·.1.isSome) then
    match valuesAt "table" members, valuesAt "comment" members, valuesAt "fields" members with
    | [table], comments, [fields] =>
        let comment := match comments with
          | [] => some none
          | [comment] => commentOf? comment
          | _ => none
        (textOf? table).bind fun table => comment.bind fun comment =>
          (fieldsOf? fields).map fun fields => ⟨table, comment, fields⟩
    | _, _, _ => none
  else none

/-- **The definition that a value describes.** -/
def ofJson? : Json → Option Definition
  | .object members => ofMembers? members
  | .array [table, comment, fields] =>
      (textOf? table).bind fun table => (commentOf? comment).bind fun comment =>
        (fieldsOf? fields).map fun fields => ⟨table, comment, fields⟩
  | _ => none

/-- **The definition that a text describes.** -/
def ofSource? (source : String) : Option Definition := (Json.read? source.toList).bind ofJson?

end Definition

end Conform

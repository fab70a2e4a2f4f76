/-
**Variables set in a file.**

A file sets variables for the environment, one in a line: `name=value`, perhaps after the word
`export`.  Blank lines and lines that begin with a number sign are skipped.  A value may be quoted,
may refer to variables with a dollar sign, and ends before a blank; only a comment may follow.
Variables that are set already keep their values.  Nothing is read after a line that is wrong.
-/

import Conform.Settings.Environment
import Conform.Text.Letter

set_option relaxedAutoImplicit false
set_option autoImplicit false

namespace Conform

namespace Dotenv

/-! ### Values -/

/-- What the reader of a value is in the middle of.  Names are kept last character first. -/
inductive Mode
  | plain
  /-- Between single quotes everything stands for itself. -/
  | strong
  | weak
  /-- After a backslash, inside double quotes or outside. -/
  | escape (quoted : Bool)
  | variable (quoted : Bool) (name : List Char)
  | braced (quoted : Bool) (name : List Char)
  /-- After the value: blanks, and then a comment. -/
  | after
  | comment
  deriving DecidableEq, Repr

def Mode.back (quoted : Bool) : Mode := if quoted then weak else plain

/-- The value of a variable whose name is kept last character first; unset ones are empty. -/
def expand (env : Environment) (name : List Char) : List Char :=
  ((env (String.ofList name.reverse)).getD "").toList

/-- One character of a value: the mode after it, and what it adds; none if it cannot stand here. -/
def step (env : Environment) : Mode → Char → Option (Mode × List Char)
  | .after, c =>
      if c = ' ' ∨ c = '\t' then some (.after, [])
      else if c = '#' then some (.comment, []) else none
  | .comment, _ => some (.comment, [])
  | .escape quoted, c =>
      if c ∈ ['\\', '\x27', '\x22', '$', ' '] then some (Mode.back quoted, [c])
      else if c = 'n' then some (Mode.back quoted, ['\n'])
      else none
  | .strong, c => if c = '\x27' then some (.plain, []) else some (.strong, [c])
  | .variable quoted name, c =>
      if Text.isAlphanumeric c then some (.variable quoted (c :: name), [])
      else if c = '\x7b' ∧ name = [] then some (.braced quoted [], [])
      else if c = '$' then some (.variable quoted [], expand env name)
      else some (Mode.back quoted, expand env name ++ [c])
  | .braced quoted name, c =>
      if c = '\x7d' then some (Mode.back quoted, expand env name)
      else some (.braced quoted (c :: name), [])
  | .weak, c =>
      if c = '$' then some (.variable true [], [])
      else if c = '\x22' then some (.plain, [])
      else if c = '\\' then some (.escape true, [])
      else some (.weak, [c])
  | .plain, c =>
      if c = '$' then some (.variable false [], [])
      else if c = '\x27' then some (.strong, [])
      else if c = '\x22' then some (.weak, [])
      else if c = '\\' then some (.escape false, [])
      else if c = ' ' ∨ c = '\t' then some (.after, [])
      else some (.plain, [c])

/-- What the end of a value adds; none inside quotes or braces. -/
def finish (env : Environment) : Mode → Option (List Char)
  | .plain | .after | .comment | .escape false => some []
  | .variable false name => some (expand env name)
  | .strong | .weak | .escape true | .variable true _ | .braced _ _ => none

def readFrom (env : Environment) : Mode → List Char → Option (List Char)
  | mode, [] => finish env mode
  | mode, c :: s => (step env mode c).bind fun r => (readFrom env r.1 s).map (r.2 ++ ·)

/-- **The text of a value.** -/
def readValue (env : Environment) (s : List Char) : Option (List Char) := readFrom env .plain s

/-! ### Lines -/

def isNameChar (c : Char) : Bool := c.isAlphanum || c == '_' || c == '.'

/-- The name that a line begins with, and the text after it and the blanks that follow it. -/
def readName (s : List Char) : Option (List Char × List Char) :=
  match s with
  | c :: _ =>
      if c.isAlpha || c == '_' then
        some (s.takeWhile isNameChar, Text.trimStart (s.dropWhile isNameChar))
      else none
  | [] => none

/-- The name that a line sets, and the text after the equals sign.  The word `export` may stand
before the name, but may also be the name itself. -/
def readTarget (s : List Char) : Option (List Char × List Char) :=
  match readName s with
  | some (name, '=' :: rest) => some (name, rest)
  | some (name, rest) =>
      if name = "export".toList then
        match readName rest with
        | some (name, '=' :: rest) => some (name, rest)
        | _ => none
      else none
  | none => none

/-- **What a line sets**: nothing, or a variable; none if the line is wrong. -/
def readLine (env : Environment) (line : List Char) : Option (Option (String × String)) :=
  match Text.trimStart (Text.trimEnd line) with
  | [] => some none
  | '#' :: _ => some none
  | s =>
      (readTarget s).bind fun (name, rest) =>
        match Text.trimStart rest with
        | [] => some (some (String.ofList name, ""))
        | '#' :: _ => some (some (String.ofList name, ""))
        | value =>
            (readValue env value).map fun text => some (String.ofList name, String.ofList text)

/-! ### Files -/

/-- The runs of characters of a class in a text, given the one that is being read, last first. -/
def runsFrom (p : Char → Bool) : List Char → List Char → List String
  | read, [] => [String.ofList read.reverse]
  | read, c :: s =>
      if p c then runsFrom p (c :: read) s
      else String.ofList read.reverse :: runsFrom p [] s

/-- The names that lines may set or refer to, in braces or without, and perhaps more. -/
def mentioned (lines : List (List Char)) : List String :=
  (lines.flatMap fun l =>
    runsFrom isNameChar [] l ++ runsFrom Text.isAlphanumeric [] l ++
      runsFrom (fun c => c ∉ ['$', '\x7b', '\x7d']) [] l).filter (· ≠ "")

/-- The environment with a variable more, unless it is set already. -/
def define (env : Environment) (name value : String) : Environment :=
  fun other => if other = name then some ((env name).getD value) else env other

/-- **The environment with the variables of a file**, line by line up to the first wrong one. -/
def load (env : Environment) : List (List Char) → Environment
  | [] => env
  | line :: rest =>
      match readLine env line with
      | none => env
      | some none => load env rest
      | some (some (name, value)) => load (define env name value) rest

/-- The lines of a file, up to the first one that is not UTF-8. -/
def lines (bytes : List UInt8) : List (List Char) :=
  (decoded (bytes.splitOnP (· == 0x0a))).map String.toList
where
  /-- The texts of the lines, up to the first one that is not UTF-8. -/
  decoded : List (List UInt8) → List String
    | [] => []
    | l :: ls =>
        match String.fromUTF8? ⟨l.toArray⟩ with
        | none => []
        | some s => s :: decoded ls

end Dotenv

end Conform

/-
**Values of JSON texts.**

Values are built by a machine that takes one token at a time and keeps the containers that are
open on a stack, so the depth of a text is not limited.
-/

import Conform.Json.Token

set_option relaxedAutoImplicit false
set_option autoImplicit false

namespace Conform

/-- **A value of JSON.**  Numbers are only checked for their form.  A string has no content if half
of a surrogate pair stands alone in it. -/
inductive Json
  | null
  | bool (b : Bool)
  | number
  | string (content : Option (List Char))
  | array (items : List Json)
  | object (members : List (Option (List Char) × Json))
  deriving Repr

namespace Json

/-- **A container that is open.**  What it holds so far is kept last first. -/
inductive Frame
  | array (items : List Json)
  | object (members : List (Option (List Char) × Json))
  /-- An object after a key, before its value. -/
  | member (members : List (Option (List Char) × Json)) (key : Option (List Char))

inductive Expecting
  | value
  /-- An item, or the end of an array that is still empty. -/
  | itemOrEnd
  /-- A key, or the end of an object that is still empty. -/
  | keyOrEnd
  | key
  | colon
  /-- A comma, or the end of the innermost container. -/
  | commaOrEnd
  /-- Nothing: the value is complete. -/
  | nothing (v : Json)

/-- The open containers, innermost first, and what may come next. -/
structure Builder where
  stack : List Frame
  expecting : Expecting

def supply (v : Json) : List Frame → Option Builder
  | [] => some ⟨[], .nothing v⟩
  | .array items :: stack => some ⟨.array (v :: items) :: stack, .commaOrEnd⟩
  | .member members key :: stack => some ⟨.object ((key, v) :: members) :: stack, .commaOrEnd⟩
  | .object _ :: _ => none

def begin? (stack : List Frame) : Token → Option Builder
  | .null => supply .null stack
  | .bool b => supply (.bool b) stack
  | .number => supply .number stack
  | .string content => supply (.string content) stack
  | .openBracket => some ⟨.array [] :: stack, .itemOrEnd⟩
  | .openBrace => some ⟨.object [] :: stack, .keyOrEnd⟩
  | .closeBrace | .closeBracket | .colon | .comma => none

def close (t : Token) : List Frame → Option Builder
  | .array items :: stack =>
      if t = .closeBracket then supply (.array items.reverse) stack else none
  | .object members :: stack =>
      if t = .closeBrace then supply (.object members.reverse) stack else none
  | _ => none

def readKey (t : Token) : List Frame → Option Builder
  | .object members :: stack =>
      match t with
      | .string content => some ⟨.member members content :: stack, .colon⟩
      | _ => none
  | _ => none

def separate : List Frame → Option Builder
  | .array items :: stack => some ⟨.array items :: stack, .value⟩
  | .object members :: stack => some ⟨.object members :: stack, .key⟩
  | _ => none

/-- **The effect of a token**; none if it cannot stand here. -/
def feed (b : Builder) (t : Token) : Option Builder :=
  match b.expecting with
  | .value => begin? b.stack t
  | .itemOrEnd => if t = .closeBracket then close t b.stack else begin? b.stack t
  | .keyOrEnd => if t = .closeBrace then close t b.stack else readKey t b.stack
  | .key => readKey t b.stack
  | .colon => if t = .colon then some ⟨b.stack, .value⟩ else none
  | .commaOrEnd => if t = .comma then separate b.stack else close t b.stack
  | .nothing _ => none

def ofTokens? (ts : List Token) : Option Json :=
  (ts.foldl (fun b t => b.bind (feed · t)) (some ⟨[], .value⟩)).bind fun b =>
    match b.expecting with
    | .nothing v => some v
    | _ => none

/-- **The value that a text is**, if it is one. -/
def read? (s : List Char) : Option Json := (scan s).bind ofTokens?

end Json

end Conform

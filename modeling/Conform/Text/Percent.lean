/-
**Percent encoding, and the parameters of a URL.**

A percent sign with two hexadecimal digits after it stands for a byte; everything else stands for
itself.  The bytes are a text if they are UTF-8.  Parameters stand between ampersands, each with a
value after an equals sign; in them a plus stands for a space.
-/

import Conform.Text.Cut
import Conform.Text.Hex

set_option relaxedAutoImplicit false
set_option autoImplicit false

namespace Conform

namespace Text

def utf8 (c : Char) : List UInt8 := (String.singleton c).toUTF8.toList

/-- **The bytes that an encoded text stands for.** -/
def percentBytes : List Char → List UInt8
  | '%' :: high :: low :: s =>
      match hexDigit? high, hexDigit? low with
      | some h, some l => (16 * h + l).toUInt8 :: percentBytes s
      | _, _ => utf8 '%' ++ percentBytes (high :: low :: s)
  | c :: s => utf8 c ++ percentBytes s
  | [] => []

/-- **The text that an encoded text stands for**, if it is one. -/
def percentDecode? (s : List Char) : Option String := String.fromUTF8? ⟨(percentBytes s).toArray⟩

/-- A key or a value of a parameter: a plus stands for a space. -/
def parameterText? (s : List Char) : Option String :=
  percentDecode? (s.map fun c => if c = '+' then ' ' else c)

/-- **The parameters of a URL**: their names and values, none where the bytes are no text. -/
def parameters (s : List Char) : List (Option String × Option String) :=
  ((s.splitOn '&').filter (· ≠ [])).map fun part =>
    match cut '=' part with
    | some (name, value) => (parameterText? name, parameterText? value)
    | none => (parameterText? part, some "")

end Text

end Conform

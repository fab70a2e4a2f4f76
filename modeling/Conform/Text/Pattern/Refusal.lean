/-
**The pattern that a text is, and why a text is refused.**
-/

import Conform.Text.Pattern.Meaning
import Conform.Text.Pattern.Reader
import Conform.Text.Pattern.Size

set_option relaxedAutoImplicit false
set_option autoImplicit false

namespace Conform

namespace Text

namespace Pattern

/-- **Why a text is refused as a pattern.** -/
inductive Refusal
  | misread (m : Misreading)
  | words
  | tooLarge
  deriving DecidableEq, Repr

def sizeLimit : Nat := 10 * 1024 * 1024

/-- **The message about a text that is refused.** -/
def Refusal.message (text : String) : Refusal → String
  | misread m => m.message text
  | words => "error building NFA"
  | tooLarge => s!"Compiled regex exceeds size limit of {sizeLimit} bytes."

/-- A pattern, if a machine can look for it. -/
def allowed (p : Pattern) : Except Refusal Pattern :=
  if sizeLimit < p.machineSize .forward then .error .tooLarge
  else if p.asksForWords then .error .words
  else if sizeLimit < p.machineSize .backward then .error .tooLarge
  else .ok p

/-- **The pattern that a text is.** -/
def read (text : String) : Except Refusal Pattern :=
  match (readTree text).bind (Tree.meaning {}) with
  | .ok (p, _) => allowed p
  | .error m => .error (.misread m)

end Pattern

end Text

end Conform

import Conform.Text.Regex.Reading
import Conform.Text.Regex.Size

/-!
# Searching texts

A text is searched for a regular expression that can be read and does not take up too much memory.

## Main definitions

- `Regex.Refusal` — why a text is not searched
- `Regex.prepare` — reads a regular expression to search for
-/

namespace Conform.Regex

/-- Why a text is not searched for a regular expression. -/
inductive Refusal where
  /-- It cannot be read. -/
  | unreadable (e : ReadError)
  /-- It would take up too much memory. -/
  | tooLarge
deriving DecidableEq, Repr

/-- The message of a refusal. -/
def Refusal.message (source : String) : Refusal → String
  | unreadable e => e.message source
  | tooLarge => "Compiled regex exceeds size limit of " ++ toString memoryLimit ++ " bytes."

/-- Reads a regular expression to search for. -/
def prepare (s : String) : Except Refusal Regex :=
  match read s with
  | .error e => .error (.unreadable e)
  | .ok r => if r.isTooLarge then .error .tooLarge else .ok r

end Conform.Regex

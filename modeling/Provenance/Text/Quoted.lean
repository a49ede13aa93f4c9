import Provenance.Text.Printable

/-!
Quoted text as it appears inside messages: double quotes around it, short escapes for the usual
control characters, and `\u` with a number in braces for everything that would not show.
-/

set_option autoImplicit false
set_option relaxedAutoImplicit false

namespace Provenance.Text

def hex (n : Nat) : List Char := Nat.toDigits 16 n

/-- One character inside quotes. A single quote stands for itself. -/
def escape (c : Char) : List Char :=
  if c = '\x00' then ['\\', '0']
  else if c = '\t' then ['\\', 't']
  else if c = '\r' then ['\\', 'r']
  else if c = '\n' then ['\\', 'n']
  else if c = '"' then ['\\', '"']
  else if c = '\\' then ['\\', '\\']
  else if ' ' ≤ c ∧ c ≤ '~' then [c]
  else if isExtending c || !isPrintable c then
    ['\\', 'u', '{'] ++ hex c.toNat ++ ['}']
  else [c]

def quoted (text : String) : String :=
  String.ofList ('"' :: text.toList.flatMap escape ++ ['"'])

end Provenance.Text

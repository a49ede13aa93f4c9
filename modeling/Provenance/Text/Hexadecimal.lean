/-!
Hexadecimal digits, with letters in either case.
-/

set_option autoImplicit false
set_option relaxedAutoImplicit false

namespace Provenance.Text

/-- The value of a digit. -/
def hexValue? (c : Char) : Option Nat :=
  if c.isDigit then some (c.toNat - '0'.toNat)
  else if 'a' ≤ c ∧ c ≤ 'f' then some (c.toNat - 'a'.toNat + 10)
  else if 'A' ≤ c ∧ c ≤ 'F' then some (c.toNat - 'A'.toNat + 10)
  else none

end Provenance.Text

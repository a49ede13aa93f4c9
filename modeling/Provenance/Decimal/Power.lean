/-!
Powers of the two bases that numbers are written in.
-/

set_option autoImplicit false
set_option relaxedAutoImplicit false

namespace Provenance

/-- What a binary digit counts for at this place. -/
def twoTo (exponent : Nat) : Nat := Nat.pow 2 exponent

/-- What a decimal digit counts for at this place. -/
def tenTo (exponent : Nat) : Nat := Nat.pow 10 exponent

theorem tenTo_pos (exponent : Nat) : 0 < tenTo exponent := Nat.pow_pos (by decide)

end Provenance

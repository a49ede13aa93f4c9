/-!
Integers as words of 32 and 64 bits hold them.
-/

set_option autoImplicit false
set_option relaxedAutoImplicit false

namespace Provenance.Word

/-- How many words of 32 bits there are. -/
def count32 : Nat := 4294967296

/-- How many words of 64 bits there are. -/
def count64 : Nat := 18446744073709551616

/-- The least integer of 64 bits with a sign. -/
def least : Int := -9223372036854775808

/-- The greatest integer of 64 bits with a sign. -/
def greatest : Int := 9223372036854775807

/-- A natural number of 64 bits. -/
def ofNat? (n : Nat) : Option Nat := if n < count64 then some n else none

/-- The integer of 32 bits with a sign that agrees with this one modulo their number. -/
def wrap (i : Int) : Int := Int.bmod i count32

end Provenance.Word

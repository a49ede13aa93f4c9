import Provenance.Decimal.Binary

/-!
Decimal digits of a binary number: the fewest that read back as the same number, or a given count
of significant ones. All arithmetic is exact; a power of ten or two that would be a fraction is
moved to the other side of the comparison.
-/

set_option autoImplicit false
set_option relaxedAutoImplicit false

namespace Provenance

/-- The decimal number `digits * 10 ^ exponent`. -/
structure Decimal where
  digits : Nat
  exponent : Int
deriving DecidableEq, Repr

namespace Decimal

/-- Trailing zeros of the digits move into the exponent; `fuel` bounds how many. -/
def strip (fuel : Nat) (x : Decimal) : Decimal :=
  match fuel with
  | 0 => x
  | fuel + 1 =>
    if x.digits ≠ 0 ∧ x.digits % 10 = 0 then strip fuel ⟨x.digits / 10, x.exponent + 1⟩ else x

/-- The digits as characters. -/
def chars (x : Decimal) : List Char := Nat.toDigits 10 x.digits

/-- The power of ten of the leading digit. -/
def magnitude (x : Decimal) : Int := x.exponent + x.chars.length - 1

end Decimal

namespace Binary64

/-- The factors `(p, q)` for which a count of steps of `10 ^ ten` and a count of units of
`2 ^ two` compare as `count * p` with `count * q`. -/
def gridFactors (ten two : Int) : Nat × Nat :=
  (tenTo ten.toNat * twoTo (-two).toNat, twoTo two.toNat * tenTo (-ten).toNat)

/-- Whether a positive finite number is at least `10 ^ ten`. -/
def reachesPower (x : Binary64) (ten : Int) : Bool :=
  let (p, q) := gridFactors ten x.scale
  p ≤ x.significand * q

/-- The power of ten of the leading decimal digit of a positive finite number. The estimate from
the binary exponent is at most one off. -/
def leadingPower (x : Binary64) : Int :=
  let guess := ((x.significand.log2 : Int) + x.scale) * 1233 / 4096
  if !x.reachesPower guess then guess - 1
  else if x.reachesPower (guess + 1) then guess + 1
  else guess

/-- The number rounded to `count` significant digits, a half going up. -/
def significant (x : Binary64) (count : Nat) : Decimal :=
  if x.significand = 0 then ⟨0, 0⟩
  else
    let ten := x.leadingPower - (count : Int) + 1
    let (p, q) := gridFactors ten x.scale
    ⟨(2 * x.significand * q + p) / (2 * p), ten⟩

/-- The best decimal of at most `count` significant digits that rounds to the number, if one does.
The interval of such reals reaches half a unit up and half a unit down, a quarter down from the
least significand of a binade, its ends included for an even significand. Of the two neighbours on
the decimal grid the nearer one wins, and a tie goes up. -/
def withDigits? (x : Binary64) (count : Nat) : Option Decimal :=
  let ten := x.leadingPower - (count : Int) + 1
  let (p, q) := gridFactors ten (x.scale - 2)
  let centre := 4 * x.significand * q
  let low := if x.fractionField = 0 ∧ 1 < x.exponentField then centre - q else centre - 2 * q
  let high := centre + 2 * q
  let inside (candidate : Nat) : Bool :=
    if x.significand % 2 = 0 then low ≤ candidate * p ∧ candidate * p ≤ high
    else low < candidate * p ∧ candidate * p < high
  let below := centre / p
  let above := below + 1
  match inside below, inside above with
  | true, true =>
    some ⟨if centre - below * p < above * p - centre then below else above, ten⟩
  | true, false => some ⟨below, ten⟩
  | false, true => some ⟨above, ten⟩
  | false, false => none

/-- The fewest digits that read back as the number; 17 always suffice. -/
def shortest (x : Binary64) : Decimal :=
  if x.significand = 0 then ⟨0, 0⟩
  else
    let counts := (List.range 17).map (· + 1)
    ((counts.findSome? x.withDigits?).getD (x.significant 17)).strip 20

end Binary64

end Provenance

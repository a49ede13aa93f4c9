import Provenance.Decimal.Power

/-!
Binary floating-point numbers of 64 bits, held as their bit pattern so that every question about
them is a question about natural numbers. A finite number is `significand * 2 ^ scale`, and
`ofRatio` is the nearest one to a quotient, a tie going to the even significand.
-/

set_option autoImplicit false
set_option relaxedAutoImplicit false

namespace Provenance

structure Binary64 where
  bits : UInt64
deriving DecidableEq, Repr

namespace Binary64

def negative (x : Binary64) : Bool :=
  x.bits.toNat / twoTo 63 == 1

def exponentField (x : Binary64) : Nat :=
  x.bits.toNat / twoTo 52 % twoTo 11

def fractionField (x : Binary64) : Nat :=
  x.bits.toNat % twoTo 52

def isNaN (x : Binary64) : Bool :=
  x.exponentField == 2047 && x.fractionField != 0

def isInfinite (x : Binary64) : Bool :=
  x.exponentField == 2047 && x.fractionField == 0

def isFinite (x : Binary64) : Bool :=
  x.exponentField != 2047

/-- The integer part of the value of a finite number: its magnitude is `significand * 2 ^ scale`. -/
def significand (x : Binary64) : Nat :=
  if x.exponentField = 0 then x.fractionField else twoTo 52 + x.fractionField

def scale (x : Binary64) : Int :=
  (max x.exponentField 1 : Nat) - 1075

/-- From the sign and the 63 bits below it. -/
def ofMagnitude (negative : Bool) (magnitude : Nat) : Binary64 :=
  ⟨UInt64.ofNat ((if negative then twoTo 63 else 0) + magnitude)⟩

/-- The pattern of the infinities below the sign; every finite pattern is smaller. -/
def infinityMagnitude : Nat := 2047 * twoTo 52

def zero : Binary64 := ofMagnitude false 0

def infinity (negative : Bool) : Binary64 := ofMagnitude negative infinityMagnitude

def nan : Binary64 := ofMagnitude false (infinityMagnitude + twoTo 51)

/-- The integer nearest to a quotient, a tie going to the even one. -/
def roundHalfEven (num den : Nat) : Nat :=
  let floor := num / den
  let rest := num % den
  if den < 2 * rest ∨ (2 * rest = den ∧ floor % 2 = 1) then floor + 1 else floor

/-- The quotient `num / den` in units of `2 ^ unit`, as a quotient again. -/
def inUnits (num den : Nat) (unit : Int) : Nat × Nat :=
  if 0 ≤ unit then (num, den * twoTo unit.toNat) else (num * twoTo (-unit).toNat, den)

/-- The number nearest to `num / den`. A significand has 53 bits unless the unit would fall below
the smallest one; a rounding that carries into the exponent is carried by the addition. -/
def ofRatio (negative : Bool) (num den : Nat) : Binary64 :=
  if num = 0 ∨ den = 0 then ofMagnitude negative 0
  else
    let low : Int := max (-1074) ((num.log2 : Int) - den.log2 - 53)
    let (n, d) := inUnits num den low
    let unit := if twoTo 53 ≤ n / d then low + 1 else low
    let (n, d) := inUnits num den unit
    let magnitude := (unit + 1074).toNat * twoTo 52 + roundHalfEven n d
    ofMagnitude negative (min magnitude infinityMagnitude)

/-- The number nearest to `digits * 10 ^ exponent`. Exponents far outside the range of the format
are answered without computing the power. -/
def ofDecimal (negative : Bool) (digits : Nat) (exponent : Int) : Binary64 :=
  if digits = 0 then ofMagnitude negative 0
  else
    let top : Int := (digits.log2 : Int) * 3 / 10 + exponent
    if 400 < top then infinity negative
    else if (digits.log2 : Int) + exponent * 3 < -1300 then ofMagnitude negative 0
    else if 0 ≤ exponent then ofRatio negative (digits * tenTo exponent.toNat) 1
    else ofRatio negative digits (tenTo (-exponent).toNat)

def ofInt (i : Int) : Binary64 :=
  ofRatio (i < 0) i.natAbs 1

/-- The integer that a finite number is, when it is one. -/
def toInt? (x : Binary64) : Option Int :=
  if !x.isFinite then none
  else
    let magnitude : Option Nat :=
      if 0 ≤ x.scale then some (x.significand * twoTo x.scale.toNat)
      else
        let unit := twoTo (-x.scale).toNat
        if x.significand % unit = 0 then some (x.significand / unit) else none
    magnitude.map fun n ↦ if x.negative then -(n : Int) else n

/-! The arithmetic of the processor. -/

def toFloat (x : Binary64) : Float := Float.ofBits x.bits

def ofFloat (x : Float) : Binary64 := ⟨x.toBits⟩

def add (x y : Binary64) : Binary64 := ofFloat (x.toFloat + y.toFloat)

def sub (x y : Binary64) : Binary64 := ofFloat (x.toFloat - y.toFloat)

def mul (x y : Binary64) : Binary64 := ofFloat (x.toFloat * y.toFloat)

def lt (x y : Binary64) : Bool := x.toFloat < y.toFloat

def le (x y : Binary64) : Bool := x.toFloat ≤ y.toFloat

/-- The numerator and denominator of a finite number without its sign. -/
def ratio (x : Binary64) : Nat × Nat :=
  if 0 ≤ x.scale then (x.significand * twoTo x.scale.toNat, 1)
  else (x.significand, twoTo (-x.scale).toNat)

/-- Whether the finite number is below the integer, compared exactly. -/
def ltInt (x : Binary64) (i : Int) : Bool :=
  let (num, den) := x.ratio
  (if x.negative then -(num : Int) else num) < i * den

end Binary64

end Provenance

import Provenance.Decimal.Binary
import Provenance.Word

/-!
Random choices drawn from a stream of 32-bit words.
-/

set_option autoImplicit false
set_option relaxedAutoImplicit false

namespace Provenance.Simulation

/-- A source of words with a state of its own. -/
structure Dice (σ : Type) where
  word : σ → UInt32 × σ

namespace Dice

variable {σ α : Type}

/-- Two words as a number of 64 bits, the low one first. -/
def double (dice : Dice σ) (s : σ) : Nat × σ :=
  let (low, s) := dice.word s
  let (high, s) := dice.word s
  (high.toNat * Word.count32 + low.toNat, s)

/-- A fraction of one, a multiple of `2 ^ -53`. -/
def fraction (dice : Dice σ) (s : σ) : Binary64 × σ :=
  let (n, s) := dice.double s
  (.ofRatio false (n / twoTo 11) (twoTo 53), s)

/-- A number below `n`, the whole part of a word times `n` in units of the number of words. A second
word is drawn where it may decide about a carry. -/
def below (dice : Dice σ) (n : Nat) (s : σ) : Nat × σ :=
  let (w, s) := dice.word s
  let product := w.toNat * n
  let low := product % Word.count32
  if Word.count32 - n < low then
    let (v, s) := dice.word s
    let carry := if Word.count32 ≤ low + v.toNat * n / Word.count32 then 1 else 0
    (product / Word.count32 + carry, s)
  else (product / Word.count32, s)

/-- One of some items. Nothing is drawn where there is no choice. -/
def pick (dice : Dice σ) (items : List α) (s : σ) : Option α × σ :=
  if items.isEmpty then (none, s)
  else
    let (index, s) := dice.below items.length s
    (items[index]?, s)

end Dice

end Provenance.Simulation

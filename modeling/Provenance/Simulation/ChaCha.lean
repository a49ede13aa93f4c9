import Provenance.Simulation.Dice

/-!
The ChaCha stream cipher with eight rounds as a source of words. A seed of 64 bits is stretched to
a key of eight words by a linear congruential generator with permuted output.
-/

set_option autoImplicit false
set_option relaxedAutoImplicit false

namespace Provenance.Simulation

/-- The key, the number of the next block, and what is left of the last one. -/
structure ChaCha where
  key : List UInt32
  counter : UInt64
  rest : List UInt32
deriving DecidableEq, Repr

namespace ChaCha

abbrev Block := Vector UInt32 16

def rotateLeft (x : UInt32) (turn : UInt32) : UInt32 :=
  x <<< turn ||| x >>> (32 - turn)

def rotateRight (x : UInt32) (turn : UInt32) : UInt32 :=
  x >>> turn ||| x <<< (32 - turn)

/-- Mixes four words of a block. -/
def quarterRound (a b c d : Fin 16) (x : Block) : Block :=
  let x := x.set a (x[a] + x[b])
  let x := x.set d (rotateLeft (x[d] ^^^ x[a]) 16)
  let x := x.set c (x[c] + x[d])
  let x := x.set b (rotateLeft (x[b] ^^^ x[c]) 12)
  let x := x.set a (x[a] + x[b])
  let x := x.set d (rotateLeft (x[d] ^^^ x[a]) 8)
  let x := x.set c (x[c] + x[d])
  x.set b (rotateLeft (x[b] ^^^ x[c]) 7)

/-- One round over the columns, then one over the diagonals. -/
def doubleRound (x : Block) : Block :=
  let x := quarterRound 0 4 8 12 x
  let x := quarterRound 1 5 9 13 x
  let x := quarterRound 2 6 10 14 x
  let x := quarterRound 3 7 11 15 x
  let x := quarterRound 0 5 10 15 x
  let x := quarterRound 1 6 11 12 x
  let x := quarterRound 2 7 8 13 x
  quarterRound 3 4 9 14 x

/-- The text "expand 32-byte k", four bytes to a word. -/
def constants : List UInt32 := [0x61707865, 0x3320646e, 0x79622d32, 0x6b206574]

/-- The words of one block. -/
def block (key : List UInt32) (counter : UInt64) : List UInt32 :=
  let words := constants ++ key ++ [counter.toUInt32, (counter >>> 32).toUInt32, 0, 0]
  let start : Block := Vector.ofFn fun i ↦ words.getD i 0
  let mixed := doubleRound (doubleRound (doubleRound (doubleRound start)))
  (start.zipWith (· + ·) mixed).toList

/-- The words of a key, from the states of the seeding generator. -/
def keyWords : Nat → UInt64 → List UInt32
  | 0, _ => []
  | count + 1, state =>
    let state := state * 6364136223846793005 + 11634580027462260723
    let mixed := (((state >>> 18) ^^^ state) >>> 27).toUInt32
    let turn := (state >>> 59).toUInt32
    (if turn = 0 then mixed else rotateRight mixed turn) :: keyWords count state

def ofSeed (seed : UInt64) : ChaCha := ⟨keyWords 8 seed, 0, []⟩

def next (s : ChaCha) : UInt32 × ChaCha :=
  match s.rest with
  | word :: rest => (word, { s with rest })
  | [] =>
    match block s.key s.counter with
    | word :: rest => (word, { s with counter := s.counter + 1, rest })
    | [] => (0, s)

def dice : Dice ChaCha := ⟨next⟩

end ChaCha

end Provenance.Simulation

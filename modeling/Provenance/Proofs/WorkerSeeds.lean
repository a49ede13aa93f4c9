import Mathlib.Data.List.Nodup
import Provenance.Simulation.ChaCha
import Provenance.Simulation.Config

/-!
The seeds of the workers of a run. The constant that numbers them is odd and so has an inverse among
the words of 64 bits, and a number is combined with the seed of the run by an operation that undoes
itself: from its seed the number of a worker is computed back (`workerOf_workerSeed`). Hence the
seeds of a run are all different, and so are the streams of random words that start from them,
unless a generator gives one stream for two seeds.
-/

set_option autoImplicit false
set_option relaxedAutoImplicit false

namespace Provenance.Simulation

variable {σ : Type}

/-- The number of the worker that has a seed in a run. -/
def workerOf (seed start : UInt64) : UInt64 := (seed ^^^ start) * 0xF1DE83E19937733D

theorem stride_mul_inverse : (0x9E3779B97F4A7C15 : UInt64) * 0xF1DE83E19937733D = 1 := by decide

theorem workerOf_workerSeed (seed worker : UInt64) :
    workerOf seed (workerSeed seed worker) = worker := by
  calc workerOf seed (workerSeed seed worker)
      = worker * 0x9E3779B97F4A7C15 * 0xF1DE83E19937733D := by
        rw [workerOf, workerSeed, ← UInt64.xor_assoc, UInt64.xor_self, UInt64.zero_xor]
    _ = worker := by rw [UInt64.mul_assoc, stride_mul_inverse, UInt64.mul_one]

theorem workerSeed_injective (seed : UInt64) : Function.Injective (workerSeed seed) :=
  Function.LeftInverse.injective (workerOf_workerSeed seed)

theorem ofNat_inj_of_lt {n m : Nat} (hn : n < Word.count64) (hm : m < Word.count64)
    (h : UInt64.ofNat n = UInt64.ofNat m) : n = m := by
  calc n = (UInt64.ofNat n).toNat := (UInt64.toNat_ofNat_of_lt' hn).symm
    _ = (UInt64.ofNat m).toNat := by rw [h]
    _ = m := UInt64.toNat_ofNat_of_lt' hm

/-- The seeds of the workers of a run, the one with number zero first. -/
def workerSeeds (seed : UInt64) (workers : Nat) : List UInt64 :=
  (List.range workers).map fun worker ↦ workerSeed seed (.ofNat worker)

theorem nodup_workerSeeds (seed : UInt64) {workers : Nat} (h : workers ≤ Word.count64) :
    (workerSeeds seed workers).Nodup := by
  refine List.Nodup.map_on (fun worker hworker other hother heq ↦ ?_) List.nodup_range
  have hlt := Nat.lt_of_lt_of_le (List.mem_range.mp hworker) h
  have hlt' := Nat.lt_of_lt_of_le (List.mem_range.mp hother) h
  exact ofNat_inj_of_lt hlt hlt' (workerSeed_injective seed heq)

/-- The words that a source gives one after the other. -/
def Dice.stream (dice : Dice σ) (s : σ) : Nat → UInt32
  | 0 => (dice.word s).1
  | n + 1 => dice.stream (dice.word s).2 n

/-- Workers with different numbers have different seeds in a run, for all numbers that a word of 64
bits holds. So a generator that starts different streams from the seeds of a run has no two of its
workers replay the same one. -/
theorem worker_seeds_differ (seed : UInt64) :
    (∀ worker other : Nat, worker < Word.count64 → other < Word.count64 → worker ≠ other →
      workerSeed seed (.ofNat worker) ≠ workerSeed seed (.ofNat other)) ∧
      ∀ {σ : Type} (dice : Dice σ) (ofSeed : UInt64 → σ) (workers : Nat),
        workers ≤ Word.count64 →
        (∀ a ∈ workerSeeds seed workers, ∀ b ∈ workerSeeds seed workers,
          dice.stream (ofSeed a) = dice.stream (ofSeed b) → a = b) →
        ((workerSeeds seed workers).map fun own ↦ dice.stream (ofSeed own)).Nodup := by
  refine ⟨fun worker other hworker hother hne heq ↦ ?_, fun dice ofSeed workers hle hapart ↦ ?_⟩
  · exact hne (ofNat_inj_of_lt hworker hother (workerSeed_injective seed heq))
  · exact List.Nodup.map_on hapart (nodup_workerSeeds seed hle)

/-- Four workers of a run with seed nine draw from four different streams. -/
theorem four_streams_differ :
    workerSeed 9 (.ofNat 0) ≠ workerSeed 9 (.ofNat 1) ∧
      ((workerSeeds 9 4).map fun own ↦ ChaCha.dice.stream (.ofSeed own)).Nodup := by
  obtain ⟨hseeds, hstreams⟩ := worker_seeds_differ 9
  have hfirst : ((workerSeeds 9 4).map fun own ↦ ChaCha.dice.stream (.ofSeed own) 0).Nodup := by
    decide +kernel
  refine ⟨hseeds 0 1 (by decide) (by decide) (by decide), ?_⟩
  exact hstreams ChaCha.dice .ofSeed 4 (by decide) fun a ha b hb heq ↦
    List.inj_on_of_nodup_map hfirst ha hb (congrFun heq 0)

end Provenance.Simulation

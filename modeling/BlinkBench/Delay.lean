import BlinkBench.Duration
import BlinkBench.Manifest.Basic
/-!
# Delays

The ways to wait for so many rounds of a counting loop.
-/
namespace BlinkBench

/-- A way to wait. -/
inductive Delay where
  /-- Does not wait, and counts the rounds asked for. -/
  | idle (requested : UInt64)
  /-- Goes through the loop, and counts its rounds. -/
  | busy (executed : UInt64)
  /-- Sleeps for a time for each round. -/
  | sleep (perIteration : Duration)
  /-- Does not wait, and remembers what was asked for, newest first. -/
  | noted (waits : List UInt64)
deriving DecidableEq, Repr

namespace Delay

/-- The delay that a manifest asks for. -/
def ofSettings (s : DelaySettings) : Delay :=
  match s.strategy with
  | .busy => busy 0
  | .sleep => sleep (.ofNanos s.iterationNs)
  | .none => idle 0

/-- Goes through the counting loop, behind `round` rounds of it, and gives the last count. -/
def countRounds (iterations round : UInt64) : UInt64 :=
  if round < iterations then countRounds iterations (round + 1) else round
termination_by iterations.toNat - round.toNat
decreasing_by
  rename_i hround
  have hlt := UInt64.lt_iff_toNat_lt.1 hround
  have hbound := iterations.toNat_lt
  have hnext : (round + 1).toNat = round.toNat + 1 := by
    rw [UInt64.toNat_add]
    exact Nat.mod_eq_of_lt (by simp; omega)
  omega

/-- Waits for so many rounds. -/
def wait (iterations : UInt64) : Delay → Delay
  | idle requested => idle (requested + iterations)
  | busy executed => busy (executed + iterations)
  | sleep perIteration => sleep perIteration
  | noted waits => noted (iterations :: waits)

/-- The counting loop goes through all rounds that it is given. -/
theorem countRounds_of_le {iterations round : UInt64} (h : round ≤ iterations) :
    countRounds iterations round = iterations := by
  induction round using countRounds.induct iterations with
  | case1 round hround ih =>
    rw [countRounds, if_pos hround]
    refine ih (UInt64.le_iff_toNat_le.2 ?_)
    have hlt := UInt64.lt_iff_toNat_lt.1 hround
    rw [UInt64.toNat_add]
    exact Nat.le_trans (Nat.mod_le _ _) hlt
  | case2 round hround =>
    rw [countRounds, if_neg hround]
    exact UInt64.le_antisymm h (UInt64.not_lt.1 hround)

/-- A busy wait adds what its loop has counted. -/
theorem wait_busy (executed iterations : UInt64) :
    (busy executed).wait iterations = busy (executed + countRounds iterations 0) := by
  rw [countRounds_of_le (UInt64.le_iff_toNat_le.2 (Nat.zero_le _))]
  rfl

/-- The rounds so far, for those that count them. -/
def total : Delay → UInt64
  | idle requested => requested
  | busy executed => executed
  | sleep _ => 0
  | noted waits => waits.foldr (· + ·) 0

end Delay

end BlinkBench

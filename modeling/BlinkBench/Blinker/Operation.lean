import BlinkBench.Blinker.Run
/-!
# What can be asked of a blinker

The operations on a blinker as data, so that a whole use of it is a list of them.
-/
namespace BlinkBench

/-- What can be asked of a blinker. -/
inductive Operation where
  /-- Someone listens from now on. -/
  | observe (observer : Nat)
  /-- Makes all pins outputs. -/
  | setDirection
  /-- Goes through one delay. -/
  | pause
  /-- One toggle. -/
  | step
  /-- Toggles until the run is cancelled. -/
  | run
  /-- Toggles until the run is cancelled or has made so many toggles. -/
  | runBounded (maxToggles : UInt64)
deriving DecidableEq, Repr

/-- What an operation is answered with. -/
inductive Reply where
  | nothing
  /-- The rounds of the delay loop. -/
  | iterations (count : UInt64)
  /-- What the pin shows. -/
  | state (s : Option PinState)
  | report (r : Report)
deriving DecidableEq, Repr

namespace Setting

variable {ω : Type} [Environment ω]

/-- One operation. There is no answer to a run that takes more than `fuel` toggles to be
cancelled. -/
def operate? (fuel : Nat) (s : Setting ω) : Operation → Option (Setting ω × Reply)
  | .observe observer => some ({ s with blinker := s.blinker.observe observer }, .nothing)
  | .setDirection => some (s.setDirection, .nothing)
  | .pause => some (s.pause, .iterations delayIterations)
  | .step => let s := s.step; some (s, .state s.blinker.state)
  | .run => (s.run? fuel).map fun (s, r) => (s, .report r)
  | .runBounded maxToggles => let (s, r) := s.runBounded maxToggles; some (s, .report r)

/-- Operations one after another, with their answers. -/
def operateAll? (fuel : Nat) (s : Setting ω) : List Operation → Option (Setting ω × List Reply)
  | [] => some (s, [])
  | op :: ops => do
    let (s, reply) ← s.operate? fuel op
    let (s, replies) ← s.operateAll? fuel ops
    return (s, reply :: replies)

end Setting

end BlinkBench

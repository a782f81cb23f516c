/-!
# Durations

Seconds and nanoseconds, where the nanoseconds are less than a second.
-/
namespace BlinkBench

/-- How many nanoseconds a second has. -/
def nanosPerSecond : Nat := 1000000000

/-- A length of time. -/
structure Duration where
  seconds : UInt64
  nanos : Nat
  nanos_lt : nanos < nanosPerSecond
deriving DecidableEq, Repr

namespace Duration

/-- A length of time in nanoseconds. -/
def toNanos (d : Duration) : Nat :=
  d.seconds.toNat * nanosPerSecond + d.nanos

/-- So many nanoseconds. -/
def ofNanos (n : UInt64) : Duration where
  seconds := UInt64.ofNat (n.toNat / nanosPerSecond)
  nanos := n.toNat % nanosPerSecond
  nanos_lt := Nat.mod_lt _ (by decide)

/-- Seconds and any number of nanoseconds, unless there are too many seconds then. -/
def ofParts? (seconds : UInt64) (nanos : Nat) : Option Duration :=
  let total := seconds.toNat + nanos / nanosPerSecond
  if total < UInt64.size then
    some ⟨UInt64.ofNat total, nanos % nanosPerSecond, Nat.mod_lt _ (by decide)⟩
  else none

/-- A length of time `n` times over. The nanoseconds of one round count modulo 2^64; those of all
rounds stop at the greatest number of 64 bits. -/
def times (d : Duration) (n : UInt64) : Duration :=
  ofNanos (UInt64.ofNat (min (d.toNanos % UInt64.size * n.toNat) (UInt64.size - 1)))

end Duration

end BlinkBench

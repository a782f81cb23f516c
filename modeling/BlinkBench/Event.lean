/-!
# Events

What the observers of a blinker are told.
-/
namespace BlinkBench

/-- What the observers of a blinker are told. -/
inductive Event where
  /-- A run begins. -/
  | runStart
  /-- A run has stopped. -/
  | runStop
  /-- The direction register was written. -/
  | direction (value : UInt8)
  /-- The data register was written. -/
  | data (value : UInt8)
  /-- So many rounds of the delay loop were asked for. -/
  | delay (iterations : UInt64)
deriving DecidableEq, Repr

end BlinkBench

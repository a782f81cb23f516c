import BlinkBench.PinState
/-!
# Reports on runs
-/
namespace BlinkBench

/-- Why a run has stopped. -/
inductive StopReason where
  /-- Someone asked for it. -/
  | cancelled
  /-- It had made as many toggles as it was meant to. -/
  | maxToggles
deriving DecidableEq, Repr

namespace StopReason

/-- The name of a reason. -/
def name : StopReason → String
  | cancelled => "cancelled"
  | maxToggles => "max_toggles"

/-- The reason with exactly this name. -/
def ofName? : String → Option StopReason
  | "cancelled" => some cancelled
  | "max_toggles" => some maxToggles
  | _ => none

/-- A reason as it is shown in messages. -/
def label : StopReason → String
  | cancelled => "Cancelled"
  | maxToggles => "MaxToggles"

end StopReason

/-- What is known of a run once it has stopped. -/
structure Report where
  /-- The toggles of this run. -/
  toggles : UInt64
  /-- What the pin shows in the end. -/
  lastState : Option PinState
  stopReason : StopReason
  /-- The rounds of the delay loop that this run has asked for. -/
  delayIterations : UInt64
deriving DecidableEq, Repr

end BlinkBench

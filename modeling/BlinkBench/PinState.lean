import BlinkBench.Pins
/-!
# What the blinking pin shows

The first pin blinks and the others stay high.
-/
namespace BlinkBench

/-- What the blinking pin shows. -/
inductive PinState where
  | low
  | high
deriving DecidableEq, Repr

/-- Makes every pin of a port an output. -/
def outputDirection : UInt8 := Pins.all.bits

namespace PinState

/-- What is written to the data register of a port to show a state. -/
def pattern : PinState → UInt8
  | low => Pins.allButFirst.bits
  | high => Pins.all.bits

/-- The state that follows. The first one of all is low. -/
def next : Option PinState → PinState
  | some low => high
  | _ => low

/-- The name of a state. -/
def name : PinState → String
  | low => "low"
  | high => "high"

/-- The state with exactly this name. -/
def ofName? : String → Option PinState
  | "low" => some low
  | "high" => some high
  | _ => none

/-- A state as it is shown in messages. -/
def label : PinState → String
  | low => "Low"
  | high => "High"

end PinState

end BlinkBench

import BlinkBench.Fault
import BlinkBench.Report
/-!
# The log

What ports, buses and blinkers tell about their work, with a level for each message.
-/
namespace BlinkBench

/-- How much a message matters. -/
inductive Level where
  | error
  | info
  | debug
  | trace
deriving DecidableEq, Repr

/-- The word that stands for a level in a log. -/
def Level.word : Level → String
  | error => "ERROR"
  | info => "INFO"
  | debug => "DEBUG"
  | trace => "TRACE"

/-- A message of the log. -/
inductive Message where
  /-- A port is mapped. -/
  | portMapped (name : String) (ddrAddress drAddress : UInt64)
  /-- A write goes to a port. -/
  | portWritten (name : String) (address : UInt64) (value : UInt8)
  /-- The output of a port changes. -/
  | outputChanged (before after : UInt8)
  /-- A write to a bus failed. -/
  | busFault (value : UInt8) (address : UInt64) (fault : Fault)
  /-- A blinker has made the pins of its port outputs. -/
  | directionSet (value : UInt8)
  /-- A blinker has shown a state on its port. -/
  | dataSet (value : UInt8) (state : PinState)
  /-- A run begins. -/
  | loopStarted
  /-- A run has stopped. -/
  | loopStopped (toggles : UInt64) (reason : StopReason)
deriving DecidableEq, Repr

namespace Message

/-- How much a message matters. -/
def level : Message → Level
  | busFault .. => .error
  | directionSet .. | loopStarted | loopStopped .. => .info
  | portMapped .. | outputChanged .. | dataSet .. => .debug
  | portWritten .. => .trace

/-- A message in words. -/
def text : Message → String
  | portMapped name ddrAddress drAddress =>
    s!"Mapped {name} (DDR {Hex.ofAddress ddrAddress}, DR {Hex.ofAddress drAddress})"
  | portWritten name address value =>
    s!"{name} [{Hex.ofAddress address}] <- {Hex.ofByte value}"
  | outputChanged before after => s!"Port output {Hex.ofByte before} -> {Hex.ofByte after}"
  | busFault value address fault =>
    s!"Bus fault writing {Hex.ofByte value} to {Hex.ofAddress address}: {fault.message}"
  | directionSet value => s!"Port direction set to {Hex.ofByte value}"
  | dataSet value state => s!"Data <- {Hex.ofByte value} ({state.label})"
  | loopStarted => "Blink loop started"
  | loopStopped toggles reason => s!"Blink loop stopped after {toggles} toggles ({reason.label})"

end Message

end BlinkBench

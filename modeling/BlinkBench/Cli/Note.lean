import BlinkBench.Message
import BlinkBench.Text.Quoted
import BlinkBench.Text.Terminal
/-!
# The log of the command line
-/
namespace BlinkBench.Cli

/-- A message of the log. -/
inductive Note where
  | starting
  /-- A manifest is loaded from this path. -/
  | loading (path : String)
  /-- There is no manifest, so the usual one counts. -/
  | standard
  /-- Toggles will take a while. -/
  | slow
  /-- What the bus and the blinker tell. -/
  | bench (message : Message)
  /-- Only the last of all writes were printed. -/
  | printedLast (printed : Nat) (count : UInt64)
  /-- What the run came to. -/
  | summary (toggles delayIterations : UInt64)
  /-- The result was written to this path. -/
  | wrote (path : String)
deriving DecidableEq, Repr

namespace Note

/-- How much a message matters. -/
def level : Note → Level
  | bench message => message.level
  | _ => .info

/-- A message in words. -/
def text : Note → String
  | starting => "Starting PortBlink"
  | loading path => "Loading manifest: " ++ Text.quoted path
  | standard => "Using default H8/3067 configuration"
  | slow => "Busy-wait delay: expect a few seconds per toggle"
  | bench message => message.text
  | printedLast printed count => s!"Printed the last {printed} of {count} data writes"
  | summary toggles delayIterations =>
    s!"Toggles: {toggles}, delay iterations: {delayIterations}"
  | wrote path => "Wrote " ++ Text.quoted path

/-- A message as the log shows it. -/
def shownText (n : Note) : String :=
  Text.tame n.text

/-- Whether a message is in the log, which may go into detail. -/
def isShown (trace : Bool) (n : Note) : Bool :=
  match n.level with
  | .error | .info => true
  | .debug => trace
  | .trace => false

end Note

end BlinkBench.Cli

import BlinkBench.Event
import BlinkBench.Message
import BlinkBench.PortRegister
/-!
# Blinkers

A blinker drives one port: it makes all pins outputs, and then shows low and high in turn, with a
delay behind each. What it does is a list of actions, so it does not depend on the port, on the
delay or on who listens.
-/
namespace BlinkBench

/-- What a blinker does at one moment. -/
inductive Action where
  /-- Writes to the port. -/
  | write (w : PortWrite)
  /-- Waits for so many rounds of the delay loop. -/
  | wait (iterations : UInt64)
  /-- Tells an observer of an event. -/
  | tell (observer : Nat) (event : Event)
  /-- Writes to the log. -/
  | note (message : Message)
deriving DecidableEq, Repr

/-- How often a delay waits. -/
def delayOuter : Nat := 2

/-- For how many rounds it waits each time. -/
def delayInner : UInt64 := 3800000

/-- The rounds of one delay. -/
def delayIterations : UInt64 := UInt64.ofNat delayOuter * delayInner

/-- A blinker. -/
structure Blinker where
  /-- Whether the pins were made outputs. -/
  initialized : Bool := false
  /-- What the pin shows. -/
  state : Option PinState := none
  /-- How often the pin was given a level. -/
  toggles : UInt64 := 0
  /-- The rounds of the delay loop that were asked for. -/
  delayIterations : UInt64 := 0
  /-- Those who listen, in the order in which they are told. -/
  observers : List Nat := []
deriving DecidableEq, Repr

namespace Blinker

/-- Someone listens from now on, once more if they do already. -/
def observe (b : Blinker) (observer : Nat) : Blinker :=
  { b with observers := b.observers ++ [observer] }

/-- Tells all observers of an event. -/
def announce (b : Blinker) (e : Event) : List Action :=
  b.observers.map (.tell · e)

/-- Makes all pins outputs. -/
def setDirection (b : Blinker) : Blinker × List Action :=
  ({ b with initialized := true },
    [.write ⟨.direction, outputDirection⟩, .note (.directionSet outputDirection)] ++
      b.announce (.direction outputDirection))

/-- Makes all pins outputs, unless that was done before. -/
def prepare (b : Blinker) : Blinker × List Action :=
  if b.initialized then (b, []) else b.setDirection

/-- Goes through one delay. -/
def pause (b : Blinker) : Blinker × List Action :=
  ({ b with delayIterations := b.delayIterations + BlinkBench.delayIterations },
    List.replicate delayOuter (.wait delayInner) ++
      b.announce (.delay BlinkBench.delayIterations))

/-- Shows the state that follows on a port that is prepared. -/
def flip (b : Blinker) : Blinker × List Action :=
  let state := PinState.next b.state
  ({ b with state := some state, toggles := b.toggles + 1 },
    [.write ⟨.data, state.pattern⟩, .note (.dataSet state.pattern state)] ++
      b.announce (.data state.pattern))

/-- One toggle: shows the state that follows, and goes through a delay. -/
def step (b : Blinker) : Blinker × List Action :=
  let (b, opening) := b.prepare
  let (b, shown) := b.flip
  let (b, delay) := b.pause
  (b, opening ++ shown ++ delay)

/-- The beginning of a run. -/
def start (b : Blinker) : Blinker × List Action :=
  let (b, opening) := b.prepare
  (b, opening ++ b.announce .runStart ++ [.note .loopStarted])

/-- What a run does where it looks whether to go on: it stops, or it toggles once more. That it is
cancelled counts before that it is finished. -/
def turn (b : Blinker) (cancelled finished : Bool) : Except StopReason (Blinker × List Action) :=
  if cancelled then .error .cancelled
  else if finished then .error .maxToggles
  else .ok b.step

/-- The end of a run of so many toggles. -/
def finish (b : Blinker) (toggles : UInt64) (reason : StopReason) : Report × List Action :=
  ({ toggles
     lastState := b.state
     stopReason := reason
     delayIterations := toggles * BlinkBench.delayIterations },
    b.announce .runStop ++ [.note (.loopStopped toggles reason)])

end Blinker

end BlinkBench

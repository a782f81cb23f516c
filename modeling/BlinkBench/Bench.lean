import BlinkBench.Blinker.Run
import BlinkBench.Delay
import BlinkBench.Metrics
import BlinkBench.Port
/-!
# The bench

A bench is where a blinker is tried out. It has a port, a delay, tokens to cancel runs with,
perhaps a fuse that cancels after so many writes, a recorder of events, metrics, and a journal of
all messages.
-/
namespace BlinkBench

/-- Tokens to cancel runs with. They are numbered from the first one on, and a token that is
cancelled stays so. -/
structure Tokens where
  /-- The token in use. -/
  current : Nat := 0
  /-- Those that are cancelled. -/
  cancelled : List Nat := []
deriving DecidableEq, Repr

namespace Tokens

/-- Whether the token in use is cancelled. -/
def isCancelled (t : Tokens) : Bool :=
  t.cancelled.contains t.current

/-- Cancels a token. -/
def cancel (t : Tokens) (token : Nat) : Tokens :=
  if t.cancelled.contains token then t else { t with cancelled := token :: t.cancelled }

/-- Takes a token that was never in use. -/
def renew (t : Tokens) : Tokens :=
  { t with current := t.current + 1 }

end Tokens

/-- Counts writes to the data register down, and cancels a token whenever it is at zero then. -/
structure Fuse where
  left : Nat
  token : Nat
deriving DecidableEq, Repr

/-- Where a blinker is tried out. -/
structure Bench where
  port : Port
  delay : Delay
  tokens : Tokens := {}
  fuse : Option Fuse := none
  /-- The events that the recorder was told of, newest first. -/
  events : List Event := []
  metrics : Metrics := {}
  /-- The messages, newest first. -/
  journal : List Message := []

namespace Bench

/-- The number of the recorder as an observer. -/
def recorderId : Nat := 0

/-- The number of the metrics as an observer. -/
def metricsId : Nat := 1

/-- One more write to the data register. -/
def burn (b : Bench) : Bench :=
  match b.fuse with
  | none => b
  | some fuse =>
    let left := fuse.left - 1
    { b with
      fuse := some { fuse with left }
      tokens := if left = 0 then b.tokens.cancel fuse.token else b.tokens }

/-- Writes to the port. -/
def write (b : Bench) (w : PortWrite) : Bench :=
  let b := { b with
    port := b.port.write w
    journal := (b.port.writeMessages w).reverse ++ b.journal }
  match w.register with
  | .direction => b
  | .data => b.burn

/-- An observer is told of an event. -/
def tell (b : Bench) (observer : Nat) (e : Event) : Bench :=
  if observer = recorderId then { b with events := e :: b.events }
  else if observer = metricsId then { b with metrics := b.metrics.tell e }
  else b

/-- One action of a blinker. -/
def perform (b : Bench) : Action → Bench
  | .write w => b.write w
  | .wait iterations => { b with delay := b.delay.wait iterations }
  | .tell observer event => b.tell observer event
  | .note message => { b with journal := message :: b.journal }

instance : Environment Bench where
  perform := perform
  isCancelled b := b.tokens.isCancelled

end Bench

end BlinkBench

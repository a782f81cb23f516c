import BlinkBench.Blinker.Run
import BlinkBench.Cli.Plan
import BlinkBench.Metrics
/-!
# Where a planned run happens

A port on a bus, a delay, metrics and a log. An alarm cancels the run; whether it has gone off
depends on the moment. The time of a moment is that of all sleeps and loops before it. Everything
else takes next to no time, but some, so that every alarm goes off in the end.
-/
namespace BlinkBench.Cli

/-- A moment of a run. -/
structure Moment where
  /-- The actions so far. -/
  actions : Nat := 0
  /-- The nanoseconds so far. -/
  nanos : Nat := 0
deriving DecidableEq, Repr

/-- Where a planned run happens. -/
structure World where
  port : BusPort
  delay : Delay
  metrics : Metrics := {}
  /-- The messages, newest first. -/
  journal : List Message := []
  moment : Moment := {}
  /-- Whether the alarm has gone off at a moment. -/
  alarm : Moment → Bool

/-- An alarm that goes off after a time, if at all. -/
def alarmAfter (wallTimeMs : Option UInt64) : Moment → Bool :=
  match wallTimeMs with
  | some ms => fun m => decide (ms.toNat * 1000000 ≤ m.nanos)
  | none => fun _ => false

namespace World

/-- How many nanoseconds an action takes: a sleep as many as it was asked for, and each round of the
empty loop one, like every action that does not wait. -/
def duration (w : World) : Action → Nat
  | .wait iterations =>
    match w.delay with
    | .sleep perIteration => (perIteration.times iterations).toNanos
    | .busy _ => iterations.toNat
    | _ => 0
  | _ => 1

/-- What an action changes, but for the time. -/
def apply (w : World) : Action → World
  | .write write =>
    { w with
      port := w.port.write write
      journal := (w.port.writeMessages write).reverse ++ w.journal }
  | .wait iterations => { w with delay := w.delay.wait iterations }
  | .tell _ event => { w with metrics := w.metrics.tell event }
  | .note message => { w with journal := message :: w.journal }

/-- One action. -/
def perform (w : World) (a : Action) : World :=
  { w.apply a with
    moment := ⟨w.moment.actions + 1, w.moment.nanos + w.duration a⟩ }

instance : Environment World where
  perform := perform
  isCancelled w := w.alarm w.moment

/-- The world at the beginning of a run. -/
def ofPlan (p : Plan) (alarm : Moment → Bool) : World :=
  { port := p.port, delay := .ofSettings p.manifest.delay, alarm }

end World

/-- A blinker with metrics at the beginning of a run. -/
def Plan.setting (p : Plan) (alarm : Moment → Bool) : Setting World :=
  ⟨({} : Blinker).observe 0, .ofPlan p alarm⟩

/-- The run. There is no answer if it has to be cancelled and makes more than `fuel` toggles. -/
def Plan.run? (p : Plan) (fuel : Nat) (alarm : Moment → Bool) : Option (Setting World × Report) :=
  match p.manifest.limits.maxToggles with
  | some max => some ((p.setting alarm).runBounded max)
  | none => (p.setting alarm).run? fuel

end BlinkBench.Cli

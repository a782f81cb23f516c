import BlinkBench.Blinker.Basic
/-!
# Runs

A run toggles until someone cancels it or until it has made as many toggles as it was meant to.
It looks before every toggle, and that it is cancelled counts first. Whether a run is cancelled may
depend on all that happened before.
-/
namespace BlinkBench

/-- Where actions happen, and where runs are cancelled. -/
class Environment (ω : Type) where
  /-- The environment behind an action. -/
  perform : ω → Action → ω
  /-- Whether a run that looks now is to stop. -/
  isCancelled : ω → Bool

/-- The environment behind some actions. -/
def Environment.performAll {ω : Type} [Environment ω] (world : ω) (actions : List Action) : ω :=
  actions.foldl perform world

/-- A blinker where it blinks. -/
structure Setting (ω : Type) where
  blinker : Blinker
  world : ω

namespace Setting

open Environment

variable {ω : Type} [Environment ω]

/-- The blinker goes on, and its actions happen. -/
def act (s : Setting ω) (next : Blinker × List Action) : Setting ω :=
  ⟨next.1, performAll s.world next.2⟩

/-- Makes all pins outputs. -/
def setDirection (s : Setting ω) : Setting ω :=
  s.act s.blinker.setDirection

/-- Goes through one delay. -/
def pause (s : Setting ω) : Setting ω :=
  s.act s.blinker.pause

/-- One toggle. -/
def step (s : Setting ω) : Setting ω :=
  s.act s.blinker.step

/-- How far a run came: the setting, its toggles, and whether it was cancelled. -/
structure Progress (ω : Type) where
  setting : Setting ω
  toggles : Nat
  cancelled : Bool

/-- Toggles until the run is cancelled or `budget` toggles are made, behind `done` of them. -/
def loop (s : Setting ω) (done : Nat) (budget : Nat) : Progress ω :=
  match s.blinker.turn (isCancelled s.world) (budget == 0), budget with
  | .error reason, _ => ⟨s, done, reason == .cancelled⟩
  | .ok next, budget + 1 => (s.act next).loop (done + 1) budget
  -- A run that is finished does not toggle once more.
  | .ok _, 0 => ⟨s, done, false⟩

theorem loop_zero (s : Setting ω) (done : Nat) :
    s.loop done 0 = ⟨s, done, isCancelled s.world⟩ := by
  unfold loop
  cases isCancelled s.world <;> rfl

theorem loop_succ (s : Setting ω) (done budget : Nat) : s.loop done (budget + 1) =
    if isCancelled s.world then ⟨s, done, true⟩ else s.step.loop (done + 1) budget := by
  conv => lhs; unfold loop
  cases isCancelled s.world <;> rfl

/-- The end of a run. -/
def finish (p : Progress ω) (reason : StopReason) : Setting ω × Report :=
  let (report, actions) := p.setting.blinker.finish (UInt64.ofNat p.toggles) reason
  (p.setting.act (p.setting.blinker, actions), report)

/-- A run of so many toggles at most. -/
def runBounded (s : Setting ω) (maxToggles : UInt64) : Setting ω × Report :=
  let p := (s.act s.blinker.start).loop 0 maxToggles.toNat
  finish p (if p.cancelled then .cancelled else .maxToggles)

/-- A run until it is cancelled. There is no answer if that takes more than `fuel` toggles. -/
def run? (fuel : Nat) (s : Setting ω) : Option (Setting ω × Report) :=
  let p := (s.act s.blinker.start).loop 0 fuel
  if p.cancelled then some (finish p .cancelled) else none

end Setting

end BlinkBench

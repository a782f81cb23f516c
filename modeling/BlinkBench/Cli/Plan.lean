import BlinkBench.Bus.Board
import BlinkBench.Cli.Args
import BlinkBench.Cli.Note
import BlinkBench.Delay
import BlinkBench.Manifest.Load
import BlinkBench.Port
/-!
# Plans

Before a run, the arguments change the limits and the delay of the manifest. What comes out is
checked once more, and a port is attached to a bus for its board.
-/
namespace BlinkBench.Cli

/-- Why a run fails, before or behind it. -/
inductive RunFault where
  | load (fault : LoadFault)
  /-- The manifest fails a check with the changes to it. -/
  | invalid (fault : ManifestFault)
  | unmapped (fault : MapFault)
  | undriven (port : String) (fault : Fault)
  /-- The directory for the result cannot be made. -/
  | directory (path : String)
  /-- The result cannot be written. -/
  | result (path : String)
deriving DecidableEq, Repr

/-- What is said about a failed run. -/
def RunFault.message : RunFault → String
  | load fault => fault.message
  | invalid fault => fault.message
  | unmapped fault => fault.message
  | undriven port _ => s!"Cannot drive port '{port}'"
  | directory path => "Failed to create output dir " ++ Text.quoted path
  | result path => "Failed to write " ++ Text.quoted path

/-- The limits of a run. The usual limit only stands in for one that is missing, so it is gone
where a time is given and no manifest and no other limit. -/
def Args.limits (a : Args) (l : Limits) : Limits where
  maxToggles :=
    if a.maxToggles.isSome then a.maxToggles
    else if a.wallTimeMs.isSome && a.config.isNone then none
    else l.maxToggles
  wallTimeMs := if a.wallTimeMs.isSome then a.wallTimeMs else l.wallTimeMs

/-- A manifest with the changes that the arguments make to it. -/
def Args.adjust (a : Args) (m : Manifest) : Manifest :=
  { m with
    limits := a.limits m.limits
    delay := { m.delay with strategy := a.delay.getD m.delay.strategy } }

/-- All that a run needs. -/
structure Plan where
  manifest : Manifest
  port : BusPort

namespace Plan

/-- The plan for a manifest with the changes that the arguments make to it. -/
def ofManifest (a : Args) (m : Manifest) : Except (Failure RunFault) Plan := do
  let manifest := a.adjust m
  manifest.validate.mapError fun fault => .fault (.invalid fault)
  let bus ← (Bus.ofBoard manifest.board).mapError (.map .unmapped)
  let driven := manifest.board.driverPort
  let port ← (BusPort.attach bus driven).mapError fun fault => .fault (.undriven driven fault)
  return { manifest, port }

/-- The manifest that the arguments ask for. -/
def load (a : Args) (fs : Files) : Except LoadFault Manifest :=
  match a.config with
  | some path => Manifest.load fs path
  | none => .ok .standard

/-- The plan that the arguments ask for. -/
def ofArgs (a : Args) (fs : Files) : Except (Failure RunFault) Plan := do
  ofManifest a (← (load a fs).mapError fun fault => .fault (.load fault))

/-- What is told while the manifest is sought. -/
def opening (a : Args) : List Note :=
  [.starting, match a.config with
    | some path => .loading path
    | none => .standard]

/-- What is told once the plan is there. -/
def notes (p : Plan) : List Note :=
  p.manifest.board.messages.map .bench ++
    if p.manifest.delay.strategy = .busy then [.slow] else []

end Plan

end BlinkBench.Cli

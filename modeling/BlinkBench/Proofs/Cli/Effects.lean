import BlinkBench.Cli.Run
/-!
# What is done behind a run

Behind a run the command line prints, logs and writes the result, one behind the other up to the first
fault. So what was printed is there whatever comes of the files.
-/
namespace BlinkBench.Cli

namespace Outcome

variable {trace : Bool} {exit : UInt32} {printed : String} {log : List Note} {files : Files}

theorem performAll_append (o : Outcome) (effects more : List Effect) :
    o.performAll trace (effects ++ more) = (o.performAll trace effects).performAll trace more :=
  List.foldl_append

theorem performAll_nil (o : Outcome) : o.performAll trace [] = o := rfl

theorem performAll_cons (o : Outcome) (e : Effect) (effects : List Effect) :
    o.performAll trace (e :: effects) = (o.perform trace e).performAll trace effects := rfl

theorem perform_print (text : String) :
    perform trace ⟨exit, printed, log, none, files⟩ (.print text) =
      ⟨exit, printed ++ text, log, none, files⟩ := rfl

theorem perform_note (n : Note) : perform trace ⟨exit, printed, log, none, files⟩ (.note n) =
    ⟨exit, printed, log ++ [n].filter (Note.isShown trace), none, files⟩ := by
  cases hn : n.isShown trace <;> simp [perform, hn]

theorem perform_save {directory : String} {s : Snapshot} {files' : Files}
    (h : writeResult files directory s = .ok files') :
    perform trace ⟨exit, printed, log, none, files⟩ (.save directory s) =
      ⟨exit, printed, log, none, files'⟩ := by
  simp [perform, h]

theorem perform_save_error {directory : String} {s : Snapshot} {fault : RunFault} {files' : Files}
    (h : writeResult files directory s = .error (fault, files')) :
    perform trace ⟨exit, printed, log, none, files⟩ (.save directory s) =
      ⟨1, printed, log, some fault, files'⟩ := by
  simp [perform, h]

theorem performAll_notes (notes : List Note) :
    performAll trace ⟨exit, printed, log, none, files⟩ (notes.map .note) =
      ⟨exit, printed, log ++ notes.filter (Note.isShown trace), none, files⟩ := by
  induction notes generalizing log with
  | nil => simp [performAll]
  | cons n notes ih =>
    rw [List.map_cons, performAll_cons, perform_note, ih, List.append_assoc, ← List.filter_append,
      List.singleton_append]

end Outcome

/-! ## The outcome of a run -/

variable {fuel : Nat} {alarm : Plan → Moment → Bool} {fs : Files} {a : Args} {outcome : Outcome}

/-- Either there is no plan, or its run is over and all is done that is to be done behind it. -/
theorem runArgs_cases (h : runArgs fuel alarm fs a = some outcome) :
    (∃ failure, Plan.ofArgs a fs = .error failure ∧ outcome = .unplanned a fs failure) ∨
    ∃ p setting report, Plan.ofArgs a fs = .ok p ∧
      p.run? fuel (alarm p) = some (setting, report) ∧
      outcome = p.concluded a fs setting report := by
  unfold runArgs at h
  split at h
  · rename_i failure hplan
    exact .inl ⟨failure, hplan, (Option.some.inj h).symm⟩
  · rename_i p hplan
    obtain ⟨⟨setting, report⟩, hrun, h⟩ := Option.bind_eq_some_iff.1 h
    exact .inr ⟨p, setting, report, hplan, hrun, (Option.some.inj h).symm⟩

theorem runArgs_of_error {failure : Failure RunFault} (h : Plan.ofArgs a fs = .error failure) :
    runArgs fuel alarm fs a = some (.unplanned a fs failure) := by
  rw [runArgs, h]

theorem runArgs_of_plan {p : Plan} (h : Plan.ofArgs a fs = .ok p) : runArgs fuel alarm fs a =
    (p.run? fuel (alarm p)).map fun e => p.concluded a fs e.1 e.2 := by
  rw [runArgs, h]
  exact Option.map_eq_bind.symm

theorem runArgs_of_run {p : Plan} {setting : Setting World} {report : Report}
    (h : Plan.ofArgs a fs = .ok p) (hrun : p.run? fuel (alarm p) = some (setting, report)) :
    runArgs fuel alarm fs a = some (p.concluded a fs setting report) := by
  rw [runArgs_of_plan h, hrun]
  rfl

variable {p : Plan} {w : World} {s : Snapshot}

/-- The outcome of a run once all is printed and told, and before any file is touched. -/
def Plan.told (p : Plan) (a : Args) (fs : Files) (w : World) (s : Snapshot) : Outcome where
  printed := (conclude p w s).1
  log := (p.outcome a fs w).log ++ (conclude p w s).2.filter (Note.isShown a.trace)
  files := fs

theorem performAll_telling (p : Plan) (a : Args) (fs : Files) (w : World) (s : Snapshot) :
    (p.outcome a fs w).performAll a.trace (telling p w s) = p.told a fs w s := by
  unfold telling Plan.outcome
  rw [Outcome.performAll_cons, Outcome.perform_print, Outcome.performAll_notes,
    String.empty_append]
  rfl

theorem performAll_effects (p : Plan) (a : Args) (fs : Files) (w : World) (s : Snapshot) :
    (p.outcome a fs w).performAll a.trace (effects a p w s) =
      (p.told a fs w s).performAll a.trace (saving a s) := by
  rw [effects, Outcome.performAll_append, performAll_telling]

theorem performAll_saving_of_none (h : a.outputDir = none) :
    (p.told a fs w s).performAll a.trace (saving a s) = p.told a fs w s := by
  rw [saving, h]
  rfl

theorem performAll_saving_of_ok {directory : String} {files : Files}
    (h : a.outputDir = some directory) (hwrite : writeResult fs directory s = .ok files) :
    (p.told a fs w s).performAll a.trace (saving a s) = { p.told a fs w s with
      log := (p.told a fs w s).log ++ [.wrote (resultPath directory)].filter (Note.isShown a.trace)
      files } := by
  unfold saving Plan.told
  rw [h]
  simp only [Outcome.performAll_cons, Outcome.performAll_nil]
  rw [Outcome.perform_save hwrite, Outcome.perform_note]

theorem performAll_saving_of_error {directory : String} {fault : RunFault} {files : Files}
    (h : a.outputDir = some directory)
    (hwrite : writeResult fs directory s = .error (fault, files)) :
    (p.told a fs w s).performAll a.trace (saving a s) =
      { p.told a fs w s with exit := 1, fault := some fault, files } := by
  unfold saving Plan.told
  rw [h]
  simp only [Outcome.performAll_cons, Outcome.performAll_nil]
  -- Nothing more is done behind the fault.
  rw [Outcome.perform_save_error hwrite]
  rfl

theorem printed_performAll (p : Plan) (a : Args) (fs : Files) (w : World) (s : Snapshot) :
    ((p.outcome a fs w).performAll a.trace (effects a p w s)).printed = (conclude p w s).1 := by
  rw [performAll_effects]
  cases h : a.outputDir with
  | none => rw [performAll_saving_of_none h]; rfl
  | some directory =>
    cases hwrite : writeResult fs directory s with
    | ok files => rw [performAll_saving_of_ok h hwrite]; rfl
    | error e => rw [performAll_saving_of_error h hwrite]; rfl

theorem not_mem_telling {directory : String} {s' : Snapshot} :
    Effect.save directory s' ∉ telling p w s := by
  simp [telling]

/-- The result is saved behind all that is printed and told. -/
theorem eq_telling {done rest : List Effect} {directory : String} {s' : Snapshot}
    (h : effects a p w s = done ++ .save directory s' :: rest) : done = telling p w s := by
  rcases List.append_eq_append_iff.1 h with ⟨more, hdone, hsaving⟩ | ⟨more, htelling, hrest⟩
  · unfold saving at hsaving
    split at hsaving
    · simp at hsaving
    · -- Behind the result only a message is left.
      cases more with
      | nil => rw [hdone, List.append_nil]
      | cons e more => cases more <;> simp at hsaving
  · cases more with
    | nil => rw [htelling, List.append_nil]
    | cons e more =>
      obtain ⟨rfl, -⟩ := List.cons.inj hrest
      exact absurd (htelling ▸ List.mem_append_right done List.mem_cons_self) not_mem_telling

end BlinkBench.Cli

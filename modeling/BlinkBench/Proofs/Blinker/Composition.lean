import BlinkBench.Proofs.Blinker.Notices
import BlinkBench.Proofs.Blinker.Parts
/-!
# Runs one after another

A run goes on where the one before it has ended. So two runs, as long as nobody cancels them, are one run
of all their toggles, but for the end of the first and the beginning of the second one, of which only
those who listen learn. And a run is so many toggles, if it has any or the pins are outputs already.
`bounded_runs_compose` says so.
-/
namespace BlinkBench

open Environment

namespace Setting

variable {ω : Type} [Environment ω] {s : Setting ω} {n : UInt64}

/-! ## Runs that nobody cancels -/

/-- No run among some operations finds that it is cancelled, whenever it looks. -/
def Uncancelled (s : Setting ω) (ops : List Operation) : Prop :=
  ∀ found ∈ s.findingsAll 0 ops, found = false

/-- A loop that never finds that it is cancelled makes all its toggles. -/
theorem isCancelled_iterate {budget : Nat} (h : ∀ found ∈ s.loopFindings budget, found = false)
    {i : Nat} (hi : i ≤ budget) : isCancelled (step^[i] s).world = false := by
  obtain ⟨rest, hrest⟩ := s.loopFindings_eq_cons budget
  have hhere : isCancelled s.world = false := h _ (hrest ▸ List.mem_cons_self)
  induction budget generalizing s i rest with
  | zero =>
    obtain rfl : i = 0 := by omega
    exact hhere
  | succ budget ih =>
    cases i with
    | zero => exact hhere
    | succ i =>
      have hbehind : ∀ found ∈ s.step.loopFindings budget, found = false := by
        intro found hfound
        refine h found ?_
        rw [loopFindings, hhere]
        exact List.mem_cons_of_mem _ hfound
      obtain ⟨rest', hrest'⟩ := s.step.loopFindings_eq_cons budget
      exact ih hbehind (by omega) rest' hrest' (hbehind _ (hrest' ▸ List.mem_cons_self))

theorem Uncancelled.runBounded {ops : List Operation} (h : s.Uncancelled (.runBounded n :: ops)) :
    s.runBounded n = s.stop n.toNat .maxToggles ∧ (s.runBounded n).1.Uncancelled ops := by
  have hlooks : ∀ i ≤ n.toNat, isCancelled (s.look i).world = false := by
    intro i hi
    exact isCancelled_iterate (fun found hfound => h found (List.mem_append_left _ hfound)) hi
  have hstops : s.StopsAfter n.toNat n.toNat :=
    ⟨Nat.le_refl _, fun i hi => hlooks i (Nat.le_of_lt hi), .inr rfl⟩
  refine ⟨?_, fun found hfound => h found (List.mem_append_right _ hfound)⟩
  rw [hstops.runBounded, reasonAt, hlooks _ (Nat.le_refl _)]
  rfl

/-! ## The blinker -/

/-- A blinker behind so many toggles. -/
theorem iterate_step_blinker (s : Setting ω) (k : Nat) :
    (step^[k] s).blinker = (fun b : Blinker => b.step.1)^[k] s.blinker := by
  induction k with
  | zero => rfl
  | succ k ih => rw [Function.iterate_succ_apply', Function.iterate_succ_apply', step_blinker, ih]

theorem look_blinker (s : Setting ω) (k : Nat) :
    (s.look k).blinker = (fun b : Blinker => b.step.1)^[k] s.blinker.start.1 :=
  iterate_step_blinker _ k

/-- The blinker of a second run begins as the first one has left it. -/
theorem stop_look_blinker (s : Setting ω) (a b : Nat) (reason : StopReason) :
    ((s.stop a reason).1.look b).blinker = (s.look (a + b)).blinker := by
  have hstart : (s.look a).blinker.start.1 = (s.look a).blinker := by
    rw [Blinker.start_fst, ← look_initialized s a]
  rw [look_blinker, stop_blinker, hstart, look_blinker, look_blinker, Nat.add_comm,
    Function.iterate_add_apply]

/-- A toggle makes all pins outputs, so it does not matter whether a run has done so before. -/
theorem iterate_step_blinker_eq_look (s : Setting ω) {k : Nat}
    (hk : 1 ≤ k ∨ s.blinker.initialized = true) : (step^[k] s).blinker = (s.look k).blinker := by
  rw [iterate_step_blinker, look_blinker]
  cases k with
  | zero =>
    have hinitialized := hk.resolve_left (by omega)
    rw [Function.iterate_zero_apply, Function.iterate_zero_apply, Blinker.start_fst, ← hinitialized]
  | succ k =>
    rw [Function.iterate_succ_apply, Function.iterate_succ_apply, Blinker.start_fst, Blinker.step_fst,
      Blinker.step_fst]

/-! ## The actions -/

/-- The calls of toggles that are made one by one are those of a run. -/
theorem iterate_step_performAll (s : Setting ω) {k : Nat}
    (hk : 1 ≤ k ∨ s.blinker.initialized = true) : ∃ actions,
    (step^[k] s).world = performAll s.world actions ∧
    calls actions = openingCalls s.blinker.initialized ++
      (PinState.patterns s.blinker.state k).flatMap toggleCalls := by
  induction k with
  | zero =>
    rw [hk.resolve_left (by omega)]
    exact ⟨[], rfl, rfl⟩
  | succ k ih =>
    rw [Function.iterate_succ_apply']
    by_cases hfirst : 1 ≤ k ∨ s.blinker.initialized = true
    · obtain ⟨actions, hactions, hcalls⟩ := ih hfirst
      refine ⟨actions ++ (step^[k] s).blinker.step.2, ?_, ?_⟩
      · rw [performAll_append, ← hactions]
        rfl
      · rw [calls_append, hcalls, Blinker.calls_step, iterate_step_blinker_eq_look s hfirst,
          look_initialized, look_state, PinState.patterns_succ]
        simp [openingCalls]
    · -- The first toggle of all makes all pins outputs.
      obtain rfl : k = 0 := by omega
      refine ⟨s.blinker.step.2, rfl, ?_⟩
      rw [Blinker.calls_step, PinState.patterns_succ]
      simp [PinState.after]

/-! ## Effects -/

/-- Two settings that differ in nothing but in what was told and logged. -/
structure SameEffect (t t' : Setting (Recorded ω)) : Prop where
  blinker : t.blinker = t'.blinker
  calls : calls t.world.actions = calls t'.world.actions
  /-- The port and the delay are the same, and whatever else only changes where one of them is called. -/
  part : ∀ {π : Type} {part : ω → π} {act : π → Action → π}, Part part act →
    (∀ p a, a.isCall = false → act p a = p) → part t.world.world = part t'.world.world

theorem sameEffect_of_performAll {r : Recorded ω} {t t' : Setting (Recorded ω)} {l l' : List Action}
    (ht : t.world = performAll r l) (ht' : t'.world = performAll r l')
    (hblinker : t.blinker = t'.blinker) (hcalls : BlinkBench.calls l = BlinkBench.calls l') :
    t.SameEffect t' where
  blinker := hblinker
  calls := by
    rw [ht, ht', Recorded.chronicle.performAll, Recorded.chronicle.performAll, calls_append,
      calls_append, hcalls]
  part := by
    intro π part act hpart hact
    have hleft := hpart.recorded.performAll_calls hact r l
    have hright := hpart.recorded.performAll_calls hact r l'
    rw [← ht] at hleft
    rw [← ht', ← hcalls] at hright
    exact hleft.trans hright.symm

theorem SameEffect.bench {t t' : Setting (Recorded Bench)} (h : t.SameEffect t') :
    t.world.world.port = t'.world.world.port ∧ t.world.world.delay = t'.world.world.delay :=
  ⟨h.part Bench.port_part Port.act_of_not_call, h.part Bench.delay_part Delay.act_of_not_call⟩

end Setting

/-! ## Two runs and one -/

namespace Blinker

/-- The events of a run up to one of its toggles. -/
def eventsUpTo (b : Blinker) (k : Nat) : List Event :=
  openingEvents b.initialized ++ [.runStart] ++ (PinState.patterns b.state k).flatMap toggleEvents

/-- The events of a run behind one of its toggles, if `n` more come. -/
def eventsBehind (b : Blinker) (k n : Nat) : List Event :=
  (PinState.patterns (PinState.after b.state k) n).flatMap toggleEvents ++ [.runStop]

/-- Those who listen, together with what they are told of some events. -/
def told (b : Blinker) (events : List Event) : List (Nat × Event) :=
  events.flatMap fun e => b.observers.map (·, e)

theorem eventsUpTo_append_eventsBehind (b : Blinker) (k n : Nat) :
    b.eventsUpTo k ++ b.eventsBehind k n = b.eventsUpTo (k + n) ++ [.runStop] := by
  simp [eventsUpTo, eventsBehind, PinState.patterns_add]

end Blinker

namespace Setting

variable {ω : Type} [Environment ω]

theorem stop_told (s : Setting (Recorded ω)) (k : Nat) (reason : StopReason) :
    (s.stop k reason).1.blinker.observers = s.blinker.observers ∧
    tells (s.stop k reason).1.world.actions =
      tells s.world.actions ++ s.blinker.told (s.blinker.eventsUpTo k ++ [.runStop]) := by
  obtain ⟨actions, hactions, htells⟩ := s.stop_tells k reason
  refine ⟨by rw [htells.observers, List.append_nil], ?_⟩
  rw [hactions, Recorded.chronicle.performAll, tells_append, htells.told]
  rfl

/-- What two runs one after another and one run of all their toggles have in common, and what they do
not. -/
structure Composes (s : Setting (Recorded ω)) (a b : UInt64)
    (first second whole : Setting (Recorded ω) × Report) : Prop where
  effect : second.1.SameEffect whole.1
  toggles : first.2.toggles.toNat + second.2.toggles.toNat = whole.2.toggles.toNat
  /-- As long as the rounds of all delays can be counted. -/
  delayIterations : 7600000 * (a.toNat + b.toNat) < UInt64.size →
    first.2.delayIterations.toNat + second.2.delayIterations.toNat =
      whole.2.delayIterations.toNat
  lastState : second.2.lastState = whole.2.lastState
  stopReason : second.2.stopReason = whole.2.stopReason
  wholeTold : tells whole.1.world.actions = tells s.world.actions ++
    s.blinker.told (s.blinker.eventsUpTo a.toNat ++ s.blinker.eventsBehind a.toNat b.toNat)
  /-- The end of the first run and the beginning of the second one come behind the toggles of the first. -/
  bothTold : tells second.1.world.actions = tells s.world.actions ++
    s.blinker.told (s.blinker.eventsUpTo a.toNat ++ [.runStop, .runStart] ++
      s.blinker.eventsBehind a.toNat b.toNat)

theorem toNat_rounds {k : Nat} (hk : 7600000 * k < UInt64.size) :
    (UInt64.ofNat k * BlinkBench.delayIterations).toNat = 7600000 * k := by
  rw [Blinker.delayIterations_eq, UInt64.toNat_mul, UInt64.toNat_ofNat_of_lt' (by omega), Nat.mul_comm]
  exact Nat.mod_eq_of_lt hk

theorem composes_stop (s : Setting (Recorded ω)) {a b : UInt64} (reason : StopReason)
    (hab : a.toNat + b.toNat < UInt64.size) :
    s.Composes a b (s.stop a.toNat reason) ((s.stop a.toNat reason).1.stop b.toNat reason)
      (s.stop (a.toNat + b.toNat) reason) where
  effect := by
    obtain ⟨l, hl, hcalls⟩ := s.stop_performAll a.toNat reason
    obtain ⟨l', hl', hcalls'⟩ := (s.stop a.toNat reason).1.stop_performAll b.toNat reason
    obtain ⟨whole, hwhole, hall⟩ := s.stop_performAll (a.toNat + b.toNat) reason
    rw [hl, ← performAll_append] at hl'
    refine sameEffect_of_performAll hl' hwhole ?_ ?_
    · exact s.stop_look_blinker a.toNat b.toNat reason
    · -- The second run finds the pins prepared, and goes on with the patterns of the first one.
      rw [calls_append, hcalls, hcalls', hall, stop_blinker, look_initialized, look_state,
        PinState.patterns_add]
      simp [openingCalls]
  toggles := by
    have ha : a.toNat < UInt64.size := a.toNat_lt
    have hb : b.toNat < UInt64.size := b.toNat_lt
    simp only [stop_report, UInt64.toNat_ofNat_of_lt' ha, UInt64.toNat_ofNat_of_lt' hb,
      UInt64.toNat_ofNat_of_lt' hab]
  delayIterations hrounds := by
    simp only [stop_report]
    rw [toNat_rounds (k := a.toNat) (by omega), toNat_rounds (by omega), toNat_rounds hrounds]
    omega
  lastState := congrArg Blinker.state (s.stop_look_blinker a.toNat b.toNat reason)
  stopReason := rfl
  wholeTold := by
    rw [Blinker.eventsUpTo_append_eventsBehind]
    exact (s.stop_told _ reason).2
  bothTold := by
    obtain ⟨hobservers, htold⟩ := s.stop_told a.toNat reason
    have htold' := ((s.stop a.toNat reason).1.stop_told b.toNat reason).2
    -- Both runs tell the same observers.
    rw [htold', htold, List.append_assoc, Blinker.told, Blinker.told, hobservers, ← List.flatMap_append]
    simp [Blinker.told, Blinker.eventsUpTo, Blinker.eventsBehind, openingEvents, look_initialized,
      look_state]

/-- A run has the effect of so many toggles, unless all that it does is to make the pins outputs. -/
theorem sameEffect_stop_iff (s : Setting (Recorded ω)) (k : Nat) (reason : StopReason) :
    (s.stop k reason).1.SameEffect (step^[k] s) ↔ 1 ≤ k ∨ s.blinker.initialized = true := by
  constructor
  · intro h
    have hinitialized : (step^[k] s).blinker.initialized = true := by
      rw [← h.blinker, stop_blinker, look_initialized]
    cases k with
    | zero => exact .inr hinitialized
    | succ k => exact .inl (by omega)
  · intro hk
    obtain ⟨l, hl, hcalls⟩ := s.stop_performAll k reason
    obtain ⟨l', hl', hcalls'⟩ := s.iterate_step_performAll hk
    exact sameEffect_of_performAll hl hl' (s.iterate_step_blinker_eq_look hk).symm
      (hcalls.trans hcalls'.symm)

end Setting

/-! ## Main theorem -/

/-- However a blinker was used before, in any world: two runs that nobody cancels do what one run of all
their toggles does, and tell of a run that ends and one that begins in between. A run that nobody cancels
does what so many toggles do one by one, if there are any, or if the pins are outputs already. -/
theorem bounded_runs_compose {ω : Type} [Environment ω] (s : Setting (Recorded ω)) :
    (∀ a b : UInt64, a.toNat + b.toNat < UInt64.size → s.Uncancelled [.runBounded (a + b)] →
      s.Uncancelled [.runBounded a, .runBounded b] →
      s.Composes a b (s.runBounded a) ((s.runBounded a).1.runBounded b) (s.runBounded (a + b))) ∧
    ∀ n : UInt64, s.Uncancelled [.runBounded n] →
      ((s.runBounded n).1.SameEffect (Setting.step^[n.toNat] s) ↔
        1 ≤ n ∨ s.blinker.initialized = true) := by
  refine ⟨fun a b hab hwhole hboth => ?_, fun n hn => ?_⟩
  · have hsum : (a + b).toNat = a.toNat + b.toNat := by
      rw [UInt64.toNat_add]
      exact Nat.mod_eq_of_lt hab
    obtain ⟨hfirst, hrest⟩ := hboth.runBounded
    rw [hwhole.runBounded.1, hrest.runBounded.1, hfirst, hsum]
    exact s.composes_stop .maxToggles hab
  · rw [hn.runBounded.1, s.sameEffect_stop_iff n.toNat .maxToggles, UInt64.le_iff_toNat_le]
    rfl

/-- A blinker on a bench, with its recorder and its metrics as observers. -/
def listenedBench : Setting (Recorded Bench) :=
  ⟨{ observers := [Bench.recorderId, Bench.metricsId] },
    ⟨{ port := .memory {}, delay := .idle 0 }, []⟩⟩

/-- A run of one toggle and one of two more, a run of three, three toggles, and a run of none. -/
theorem bounded_runs_compose_three :
    (listenedBench.Composes 1 2 (listenedBench.runBounded 1)
      ((listenedBench.runBounded 1).1.runBounded 2) (listenedBench.runBounded 3)) ∧
    (listenedBench.runBounded 3).1.world.world.port =
      (Setting.step^[3] listenedBench).world.world.port ∧
    ¬ (listenedBench.runBounded 0).1.SameEffect listenedBench := by
  obtain ⟨hcomposes, hsteps⟩ := bounded_runs_compose listenedBench
  have huncancelled : ∀ ops ∈ [[Operation.runBounded 3], [.runBounded 1, .runBounded 2], [.runBounded 0]],
      listenedBench.Uncancelled ops := by
    unfold Setting.Uncancelled
    decide +kernel
  refine ⟨hcomposes 1 2 (by decide) (huncancelled _ (by simp)) (huncancelled _ (by simp)),
    ((hsteps 3 (huncancelled _ (by simp))).2 (.inl (by decide))).bench.1, fun h => ?_⟩
  rcases (hsteps 0 (huncancelled _ (by simp))).1 h with hpos | hinitialized
  · exact absurd hpos (by decide)
  · cases hinitialized

end BlinkBench

import BlinkBench.Proofs.Blinker.Calls
import BlinkBench.Proofs.Blinker.Record
import Mathlib.Logic.Function.Iterate
/-!
# Where runs stop

A run looks whether it is cancelled before its first toggle and behind each one. It stops where it
first finds so, or behind as many toggles as it was meant to make. From that follows what each
operation has the port and the delay do.
-/
namespace BlinkBench

open Environment

namespace Setting

variable {ω : Type} [Environment ω] {s : Setting ω}

@[simp] theorem act_blinker (s : Setting ω) (next : Blinker × List Action) :
    (s.act next).blinker = next.1 := rfl

@[simp] theorem setDirection_blinker (s : Setting ω) :
    s.setDirection.blinker = s.blinker.setDirection.1 := rfl

@[simp] theorem pause_blinker (s : Setting ω) : s.pause.blinker = s.blinker.pause.1 := rfl

@[simp] theorem step_blinker (s : Setting ω) : s.step.blinker = s.blinker.step.1 := rfl

/-! ## Looks -/

/-- The setting in which a run looks whether it is cancelled, behind `k` toggles. -/
def look (s : Setting ω) (k : Nat) : Setting ω :=
  step^[k] (s.act s.blinker.start)

@[simp] theorem look_zero (s : Setting ω) : s.look 0 = s.act s.blinker.start := rfl

theorem look_succ (s : Setting ω) (k : Nat) : s.look (k + 1) = (s.look k).step :=
  Function.iterate_succ_apply' ..

/-- A run of `budget` toggles at most stops behind `k` of them: it was not cancelled where it looked
before, and there it is or has made all its toggles. -/
structure StopsAfter (s : Setting ω) (budget k : Nat) : Prop where
  le_budget : k ≤ budget
  before : ∀ i < k, isCancelled (s.look i).world = false
  there : isCancelled (s.look k).world = true ∨ k = budget

/-- No run stops at two places. -/
theorem StopsAfter.unique {budget k l : Nat} (hk : s.StopsAfter budget k)
    (hl : s.StopsAfter budget l) : k = l := by
  by_contra hne
  rcases Nat.lt_or_gt_of_ne hne with h | h
  · rcases hk.there with hc | rfl
    · rw [hl.before k h] at hc
      cases hc
    · have := hl.le_budget
      omega
  · rcases hl.there with hc | rfl
    · rw [hk.before l h] at hc
      cases hc
    · have := hk.le_budget
      omega

theorem loop_iterate (s : Setting ω) (done budget : Nat) : ∃ k ≤ budget,
    (∀ i < k, isCancelled (step^[i] s).world = false) ∧
      (isCancelled (step^[k] s).world = true ∨ k = budget) ∧
      s.loop done budget = ⟨step^[k] s, done + k, isCancelled (step^[k] s).world⟩ := by
  -- A toggle leaves a setting of its own and one toggle less, so the loop behind it is the same.
  induction budget generalizing s done with
  | zero => exact ⟨0, Nat.le_refl 0, by simp, .inr rfl, s.loop_zero done⟩
  | succ budget ih =>
    by_cases hc : isCancelled s.world = true
    · exact ⟨0, Nat.zero_le _, by simp, .inl hc, by simp [loop_succ, hc]⟩
    · obtain ⟨k, hle, hbefore, hthere, hloop⟩ := ih s.step (done + 1)
      refine ⟨k + 1, by omega, fun i hi => ?_, ?_, ?_⟩
      · cases i with
        | zero => simpa using hc
        | succ i => exact hbefore i (by omega)
      · exact hthere.imp_right (by omega)
      · rw [loop_succ, if_neg hc, hloop, Function.iterate_succ_apply]
        simp only [Progress.mk.injEq, and_true, true_and]
        omega

/-- Every run with a budget stops somewhere. -/
theorem exists_stopsAfter (s : Setting ω) (budget : Nat) : ∃ k, s.StopsAfter budget k ∧
    (s.act s.blinker.start).loop 0 budget = ⟨s.look k, k, isCancelled (s.look k).world⟩ := by
  obtain ⟨k, hle, hbefore, hthere, hloop⟩ := loop_iterate (s.act s.blinker.start) 0 budget
  exact ⟨k, ⟨hle, hbefore, hthere⟩, by simpa [look] using hloop⟩

theorem StopsAfter.loop {budget k : Nat} (h : s.StopsAfter budget k) :
    (s.act s.blinker.start).loop 0 budget = ⟨s.look k, k, isCancelled (s.look k).world⟩ := by
  obtain ⟨l, hl, hloop⟩ := s.exists_stopsAfter budget
  rw [h.unique hl, hloop]

/-! ## Runs -/

/-- The end of a run, behind `k` toggles. -/
def stop (s : Setting ω) (k : Nat) (reason : StopReason) : Setting ω × Report :=
  finish ⟨s.look k, k, isCancelled (s.look k).world⟩ reason

/-- Why a run stops behind `k` toggles. That it is cancelled counts first. -/
def reasonAt (s : Setting ω) (k : Nat) : StopReason :=
  if isCancelled (s.look k).world then .cancelled else .maxToggles

theorem StopsAfter.runBounded {maxToggles : UInt64} {k : Nat}
    (h : s.StopsAfter maxToggles.toNat k) :
    s.runBounded maxToggles = s.stop k (s.reasonAt k) := by
  simp only [Setting.runBounded, h.loop]
  rfl

/-- A run without a budget ends where it is cancelled, and nowhere else. -/
theorem run?_eq_some {fuel : Nat} {e : Setting ω × Report} : s.run? fuel = some e ↔
    ∃ k, s.StopsAfter fuel k ∧ isCancelled (s.look k).world = true ∧ e = s.stop k .cancelled := by
  obtain ⟨k, hk, hloop⟩ := s.exists_stopsAfter fuel
  simp only [run?, hloop]
  constructor
  · intro h
    split at h
    · cases h
      exact ⟨k, hk, by assumption, rfl⟩
    · cases h
  · rintro ⟨l, hl, hc, rfl⟩
    rw [hl.unique hk] at hc ⊢
    rw [if_pos hc]
    rfl

@[simp] theorem stop_report (s : Setting ω) (k : Nat) (reason : StopReason) : (s.stop k reason).2 =
    { toggles := UInt64.ofNat k
      lastState := (s.look k).blinker.state
      stopReason := reason
      delayIterations := UInt64.ofNat k * BlinkBench.delayIterations } := rfl

@[simp] theorem stop_blinker (s : Setting ω) (k : Nat) (reason : StopReason) :
    (s.stop k reason).1.blinker = (s.look k).blinker := rfl

/-! ## The blinker in a run -/

theorem look_initialized (s : Setting ω) (k : Nat) : (s.look k).blinker.initialized = true := by
  induction k with
  | zero => simp
  | succ k ih => simp [look_succ]

theorem look_state (s : Setting ω) (k : Nat) :
    (s.look k).blinker.state = PinState.after s.blinker.state k := by
  induction k with
  | zero => simp [PinState.after]
  | succ k ih => simp [look_succ, PinState.after, ih]

theorem look_toggles (s : Setting ω) (k : Nat) :
    (s.look k).blinker.toggles = s.blinker.toggles + UInt64.ofNat k := by
  induction k with
  | zero => simp
  | succ k ih => simp [look_succ, ih, UInt64.add_assoc]

/-! ## Nothing but actions -/

theorem performAll_append (w : ω) (l l' : List Action) :
    performAll w (l ++ l') = performAll (performAll w l) l' :=
  List.foldl_append

/-- What the actions at the start of a run have, and each toggle keeps, all actions up to a look have. -/
theorem look_actions {P : Nat → List Action → Prop} (s : Setting ω) (hstart : P 0 s.blinker.start.2)
    (hstep : ∀ k actions, P k actions → P (k + 1) (actions ++ (s.look k).blinker.step.2)) (k : Nat) :
    ∃ actions, (s.look k).world = performAll s.world actions ∧ P k actions := by
  induction k with
  | zero => exact ⟨_, rfl, hstart⟩
  | succ k ih =>
    obtain ⟨actions, hactions, hP⟩ := ih
    refine ⟨actions ++ (s.look k).blinker.step.2, ?_, hstep k actions hP⟩
    rw [look_succ, performAll_append, ← hactions]
    rfl

theorem stop_world {k : Nat} {actions : List Action}
    (h : (s.look k).world = performAll s.world actions) (reason : StopReason) :
    (s.stop k reason).1.world =
      performAll s.world (actions ++ ((s.look k).blinker.finish (UInt64.ofNat k) reason).2) := by
  rw [performAll_append, ← h]
  rfl

/-- Behind `k` toggles of a run, its calls are those of all `k`. -/
theorem look_performAll (s : Setting ω) (k : Nat) : ∃ actions,
    (s.look k).world = performAll s.world actions ∧
    calls actions = openingCalls s.blinker.initialized ++
      (PinState.patterns s.blinker.state k).flatMap toggleCalls := by
  refine look_actions (P := fun k actions => calls actions = openingCalls s.blinker.initialized ++
    (PinState.patterns s.blinker.state k).flatMap toggleCalls) s (by simp) ?_ k
  intro k actions hcalls
  -- Behind the first look all pins are outputs, so a toggle writes to the data register only.
  rw [calls_append, hcalls, Blinker.calls_step, look_initialized, look_state,
    PinState.patterns_succ]
  simp [openingCalls]

/-- The end of a run calls neither the port nor the delay. -/
theorem stop_performAll (s : Setting ω) (k : Nat) (reason : StopReason) : ∃ actions,
    (s.stop k reason).1.world = performAll s.world actions ∧
    calls actions = openingCalls s.blinker.initialized ++
      (PinState.patterns s.blinker.state k).flatMap toggleCalls := by
  obtain ⟨actions, h, hcalls⟩ := s.look_performAll k
  refine ⟨_, stop_world h reason, ?_⟩
  rw [calls_append, hcalls, Blinker.calls_finish, List.append_nil]

/-! ## Operations -/

/-- What an operation makes of a setting, its answer, and how many toggles it takes. -/
inductive Does (s : Setting ω) : Operation → Setting ω → Reply → Nat → Prop
  | observe (observer : Nat) :
    s.Does (.observe observer) { s with blinker := s.blinker.observe observer } .nothing 0
  | setDirection : s.Does .setDirection s.setDirection .nothing 0
  | pause : s.Does .pause s.pause (.iterations delayIterations) 0
  | step : s.Does .step s.step (.state s.step.blinker.state) 1
  | run {fuel k : Nat} (hk : s.StopsAfter fuel k)
    (hcancelled : isCancelled (s.look k).world = true) :
    s.Does .run (s.stop k .cancelled).1 (.report (s.stop k .cancelled).2) k
  | runBounded {maxToggles : UInt64} {k : Nat} (hk : s.StopsAfter maxToggles.toNat k) :
    s.Does (.runBounded maxToggles) (s.stop k (s.reasonAt k)).1
      (.report (s.stop k (s.reasonAt k)).2) k

theorem does_of_operate? {fuel : Nat} {op : Operation} {s' : Setting ω} {reply : Reply}
    (hop : s.operate? fuel op = some (s', reply)) : ∃ k, s.Does op s' reply k := by
  cases op with
  | observe observer =>
    cases hop
    exact ⟨0, .observe observer⟩
  | setDirection =>
    cases hop
    exact ⟨0, .setDirection⟩
  | pause =>
    cases hop
    exact ⟨0, .pause⟩
  | step =>
    cases hop
    exact ⟨1, .step⟩
  | run =>
    obtain ⟨⟨t, r⟩, hrun, he⟩ := Option.map_eq_some_iff.1 hop
    obtain ⟨k, hk, hcancelled, hstop⟩ := run?_eq_some.1 hrun
    obtain ⟨rfl, rfl⟩ := Prod.mk.inj hstop
    obtain ⟨rfl, rfl⟩ := Prod.mk.inj he
    exact ⟨k, .run hk hcancelled⟩
  | runBounded maxToggles =>
    obtain ⟨k, hk, -⟩ := s.exists_stopsAfter maxToggles.toNat
    simp only [operate?, hk.runBounded, Option.some.injEq, Prod.mk.injEq] at hop
    obtain ⟨rfl, rfl⟩ := hop
    exact ⟨k, .runBounded hk⟩

/-- An operation does nothing to the world but act in it. -/
theorem Does.performAll {op : Operation} {s' : Setting ω} {reply : Reply} {k : Nat}
    (h : s.Does op s' reply k) : ∃ actions, s'.world = performAll s.world actions := by
  cases h with
  | observe => exact ⟨[], rfl⟩
  | setDirection | pause | step => exact ⟨_, rfl⟩
  | run | runBounded =>
    obtain ⟨actions, hactions, -⟩ := s.stop_performAll k _
    exact ⟨actions, hactions⟩

theorem operateAll?_performAll {fuel : Nat} {ops : List Operation} {s' : Setting ω}
    {replies : List Reply} (hops : s.operateAll? fuel ops = some (s', replies)) :
    ∃ actions, s'.world = performAll s.world actions := by
  induction ops generalizing s replies with
  | nil =>
    cases hops
    exact ⟨[], rfl⟩
  | cons op ops ih =>
    obtain ⟨mid, reply, rest, hop, hops, -⟩ := operateAll?_cons.1 hops
    obtain ⟨k, hk⟩ := does_of_operate? hop
    obtain ⟨l, hl⟩ := hk.performAll
    obtain ⟨l', hl'⟩ := ih hops
    exact ⟨l ++ l', by rw [hl', hl, performAll_append]⟩

/-! ## Calls in a run -/

section Chronicle

variable {history : ω → List Action}

theorem calls_act (h : Chronicle history) (s : Setting ω) (next : Blinker × List Action) :
    calls (history (s.act next).world) = calls (history s.world) ++ calls next.2 := by
  rw [act, h.performAll, calls_append]

/-- A run of `k` toggles has the calls of all `k`. -/
theorem calls_stop (h : Chronicle history) (s : Setting ω) (k : Nat) (reason : StopReason) :
    calls (history (s.stop k reason).1.world) = calls (history s.world) ++
      (openingCalls s.blinker.initialized ++
        (PinState.patterns s.blinker.state k).flatMap toggleCalls) := by
  obtain ⟨actions, hact, hcalls⟩ := s.stop_performAll k reason
  rw [hact, h.performAll, calls_append, hcalls]

end Chronicle

end Setting

end BlinkBench

import BlinkBench.Bench
import BlinkBench.Proofs.Blinker.Runs
/-!
# Runs that someone else cancels

The token of a run may be set by anyone and at any moment. A race is a world with someone in it who
does so: before or behind any action, or never. The run looks for the token between two actions, so
a moment behind an action comes before the look that follows it, and a moment before an action comes
behind the look before it.

`cancellation_heeded` says where runs stop in every race, what they still do once the token is set,
and how far they come on a bench with a fuse.
-/
namespace BlinkBench

open Environment

/-! ## Races -/

/-- What is seen of a race. -/
inductive Mark where
  | action (a : Action)
  /-- The token is set. -/
  | cancel
deriving DecidableEq, Repr

/-- The action that a mark is, if it is one. -/
def Mark.action? : Mark → Option Action
  | .action a => some a
  | .cancel => none

/-- The actions among some marks. -/
def actionsOf (marks : List Mark) : List Action :=
  marks.filterMap Mark.action?

@[simp] theorem actionsOf_append (l l' : List Mark) :
    actionsOf (l ++ l') = actionsOf l ++ actionsOf l' :=
  List.filterMap_append

/-- How often some actions write to the data register. -/
def dataCount (actions : List Action) : Nat :=
  (valuesOf .data (portWrites actions)).length

theorem dataCount_append (l l' : List Action) : dataCount (l ++ l') = dataCount l + dataCount l' := by
  simp [dataCount]

theorem dataCount_calls (l : List Action) : dataCount (calls l) = dataCount l := by
  rw [dataCount, portWrites_calls, dataCount]

theorem dataCount_openingCalls (initialized : Bool) : dataCount (openingCalls initialized) = 0 := by
  cases initialized <;> rfl

/-- A world with someone in it who may set a token. -/
structure Race (ω : Type) where
  world : ω
  token : Bool := false
  /-- What was seen so far, oldest first. -/
  marks : List Mark := []
  /-- How many moments have passed. -/
  moment : Nat := 0
  /-- Whether someone sets the token at a moment. -/
  strikes : Nat → Bool

namespace Race

variable {ω : Type}

/-- A moment passes. The token is seen to be set if it was not before. -/
def pass (r : Race ω) : Race ω :=
  { r with
    token := r.token || r.strikes r.moment
    marks := if !r.token && r.strikes r.moment then r.marks ++ [.cancel] else r.marks
    moment := r.moment + 1 }

/-- All actions so far. -/
def history (r : Race ω) : List Action :=
  actionsOf r.marks

/-- What is seen from one state of a race to a later one. -/
structure Sees (r r' : Race ω) (m : List Mark) : Prop where
  seen : r'.marks = r.marks ++ m
  /-- A token that is set stays so. -/
  kept : r.token = true → r'.token = true
  /-- A token is seen to be set at most where it is set in the end. -/
  unset : r'.token = false → .cancel ∉ m

variable {r r' r'' : Race ω} {m m' : List Mark}

theorem Sees.trans (h : r.Sees r' m) (h' : r'.Sees r'' m') : r.Sees r'' (m ++ m') where
  seen := by rw [h'.seen, h.seen, List.append_assoc]
  kept ht := h'.kept (h.kept ht)
  unset ht := by
    have hr' : r'.token = false := by
      by_contra hf
      rw [h'.kept (by simpa using hf)] at ht
      cases ht
    simp [h.unset hr', h'.unset ht]

theorem sees_pass (r : Race ω) : ∃ m, r.Sees r.pass m ∧ actionsOf m = [] := by
  by_cases h : (!r.token && r.strikes r.moment) = true
  · refine ⟨[.cancel], ⟨by simp [pass, h], fun ht => by simp [pass, ht], fun ht => ?_⟩, rfl⟩
    simp only [pass] at ht
    grind
  · exact ⟨[], ⟨by simp [pass, h], fun ht => by simp [pass, ht], by simp⟩, rfl⟩

variable [Environment ω]

/-- An action between two moments. -/
def perform (r : Race ω) (a : Action) : Race ω :=
  pass { r.pass with
    world := Environment.perform r.world a
    marks := r.pass.marks ++ [.action a] }

instance : Environment (Race ω) where
  perform := perform
  isCancelled := token

theorem sees_perform (r : Race ω) (a : Action) :
    ∃ m, r.Sees (Environment.perform r a) m ∧ actionsOf m = [a] := by
  obtain ⟨m, hm, hma⟩ := r.sees_pass
  let mid : Race ω := { r.pass with
    world := Environment.perform r.world a
    marks := r.pass.marks ++ [.action a] }
  have hmid : r.pass.Sees mid [.action a] := ⟨rfl, id, by simp⟩
  obtain ⟨m', hm', hma'⟩ := mid.sees_pass
  exact ⟨_, (hm.trans hmid).trans hm', by
    rw [actionsOf_append, actionsOf_append, hma, hma']
    rfl⟩

theorem sees_performAll (r : Race ω) (actions : List Action) :
    ∃ m, r.Sees (performAll r actions) m ∧ actionsOf m = actions := by
  induction actions generalizing r with
  | nil => exact ⟨[], ⟨by simp [performAll], id, by simp⟩, rfl⟩
  | cons a actions ih =>
    obtain ⟨m, hm, hma⟩ := r.sees_perform a
    obtain ⟨m', hm', hma'⟩ := ih (Environment.perform r a)
    exact ⟨m ++ m', hm.trans hm', by simp [hma, hma']⟩

theorem chronicle : Chronicle (history (ω := ω)) where
  perform r a := by
    obtain ⟨m, hm, hma⟩ := r.sees_perform a
    rw [history, hm.seen, actionsOf_append, hma, history]

end Race

/-! ## Runs in a race -/

namespace Setting

section Race

variable {ω : Type} [Environment ω] {s : Setting (Race ω)}

/-- What is seen of a run of `k` toggles in a race. -/
structure Seen (s t : Setting (Race ω)) (k : Nat) (m : List Mark) : Prop where
  sees : s.world.Sees t.world m
  /-- Each toggle that is begun writes once and waits twice. -/
  calls : calls (actionsOf m) = openingCalls s.blinker.initialized ++
    (PinState.patterns s.blinker.state k).flatMap toggleCalls
  /-- Once the token is set, at most one more value is written to the data register. -/
  late : ∀ before behind, m = before ++ .cancel :: behind → dataCount (actionsOf behind) ≤ 1

theorem sees_act (s : Setting (Race ω)) (next : Blinker × List Action) :
    ∃ m, s.world.Sees (s.act next).world m ∧ actionsOf m = next.2 :=
  s.world.sees_performAll next.2

theorem sees_look (s : Setting (Race ω)) (k : Nat) :
    ∃ m, s.world.Sees (s.look k).world m ∧ dataCount (actionsOf m) = k := by
  induction k with
  | zero =>
    obtain ⟨m, hm, hma⟩ := s.sees_act s.blinker.start
    exact ⟨m, hm, by rw [hma, ← dataCount_calls, Blinker.calls_start, dataCount_openingCalls]⟩
  | succ k ih =>
    obtain ⟨m, hm, hmd⟩ := ih
    obtain ⟨m', hm', hma'⟩ := (s.look k).sees_act (s.look k).blinker.step
    refine ⟨m ++ m', look_succ s k ▸ hm.trans hm', ?_⟩
    have hstep : dataCount (actionsOf m') = 1 := by
      rw [hma', ← dataCount_calls, Blinker.calls_step, dataCount_append, dataCount_openingCalls]
      rfl
    rw [actionsOf_append, dataCount_append, hmd, hstep]

theorem sees_stop (s : Setting (Race ω)) (k : Nat) (reason : StopReason) :
    ∃ m, (s.look k).world.Sees (s.stop k reason).1.world m ∧ dataCount (actionsOf m) = 0 := by
  obtain ⟨m, hm, hma⟩ := (s.look k).sees_act
    ((s.look k).blinker, ((s.look k).blinker.finish (UInt64.ofNat k) reason).2)
  exact ⟨m, hm, by rw [hma, ← dataCount_calls, Blinker.calls_finish]; rfl⟩

/-- A mark that is not in the first part of what is seen is in the second, with all behind it. -/
theorem split_of_not_mem {α : Type} {l l' before behind : List α} {x : α} (hx : x ∉ l)
    (h : l ++ l' = before ++ x :: behind) : ∃ middle, l' = middle ++ x :: behind := by
  rcases List.append_eq_append_iff.1 h with ⟨middle, -, h'⟩ | ⟨middle, hl, h'⟩
  · exact ⟨middle, h'⟩
  · cases middle with
    | nil => exact ⟨[], by simpa using h'.symm⟩
    | cons y middle =>
      obtain ⟨rfl, -⟩ := List.cons.inj h'
      exact absurd (hl ▸ by simp) hx

/-- Where the token is not set before the last toggle of a run, no more than this toggle comes
behind the moment in which it is set. -/
theorem seen_stop (s : Setting (Race ω)) (k : Nat) (reason : StopReason)
    (hbefore : ∀ i < k, (s.look i).world.token = false) :
    ∃ m, s.Seen (s.stop k reason).1 k m := by
  obtain ⟨m₃, h₃, hd₃⟩ := s.sees_stop k reason
  have hcalls : ∀ m, s.world.Sees (s.stop k reason).1.world m →
      calls (actionsOf m) = openingCalls s.blinker.initialized ++
        (PinState.patterns s.blinker.state k).flatMap toggleCalls := by
    intro m hm
    have h := calls_stop Race.chronicle s k reason
    rw [Race.history, hm.seen, actionsOf_append, calls_append, Race.history] at h
    exact List.append_cancel_left h
  cases k with
  | zero =>
    obtain ⟨m₁, h₁, hd₁⟩ := s.sees_look 0
    refine ⟨m₁ ++ m₃, h₁.trans h₃, hcalls _ (h₁.trans h₃), fun before behind heq => ?_⟩
    have hd : dataCount (actionsOf (m₁ ++ m₃)) = 0 := by
      rw [actionsOf_append, dataCount_append, hd₁, hd₃]
    rw [heq, actionsOf_append, dataCount_append] at hd
    have htail : dataCount (actionsOf (.cancel :: behind)) = dataCount (actionsOf behind) := rfl
    omega
  | succ j =>
    obtain ⟨m₁, h₁, -⟩ := s.sees_look j
    obtain ⟨m₂, h₂, hma₂⟩ := (s.look j).sees_act (s.look j).blinker.step
    have h₂₃ := (look_succ s j ▸ h₂ : (s.look j).world.Sees (s.look (j + 1)).world m₂).trans h₃
    refine ⟨m₁ ++ (m₂ ++ m₃), h₁.trans h₂₃, hcalls _ (h₁.trans h₂₃), fun before behind heq => ?_⟩
    -- The look before the last toggle did not find the token set, so it is set behind this look.
    obtain ⟨middle, hmiddle⟩ := split_of_not_mem (h₁.unset (hbefore j (by omega))) heq
    have hd : dataCount (actionsOf (m₂ ++ m₃)) = 1 := by
      rw [actionsOf_append, dataCount_append, hd₃, hma₂, ← dataCount_calls, Blinker.calls_step,
        dataCount_append, dataCount_openingCalls]
      rfl
    rw [hmiddle, actionsOf_append, dataCount_append] at hd
    have htail : dataCount (actionsOf (.cancel :: behind)) = dataCount (actionsOf behind) := rfl
    omega

/-- How runs go in a race, from some setting on. -/
structure Heeds (s : Setting (Race ω)) : Prop where
  /-- A run of so many toggles at most stops at the first look at which the token is set or all
  toggles are made. That the token is set counts first. -/
  bounded : ∀ n : UInt64, ∃ k, s.StopsAfter n.toNat k ∧
    (s.runBounded n).2.toggles.toNat = k ∧
    ((s.runBounded n).2.stopReason = .cancelled ↔ (s.look k).world.token = true) ∧
    ((s.runBounded n).2.stopReason = .maxToggles → k = n.toNat) ∧
    ∃ m, s.Seen (s.runBounded n).1 k m
  /-- Any other run stops at the first look at which the token is set, and nowhere else. -/
  unbounded : ∀ fuel t r, s.run? fuel = some (t, r) → ∃ k,
    (∀ i < k, (s.look i).world.token = false) ∧ (s.look k).world.token = true ∧
    r.toggles = UInt64.ofNat k ∧ r.stopReason = .cancelled ∧ ∃ m, s.Seen t k m
  returns : ∀ k, (s.look k).world.token = true → ∀ fuel, k ≤ fuel → ∃ e, s.run? fuel = some e
  /-- No operation takes a token back. -/
  kept : s.world.token = true → ∀ fuel ops t replies,
    s.operateAll? fuel ops = some (t, replies) → t.world.token = true
  /-- With a token that is set, runs write no data. -/
  idle : s.world.token = true →
    (∀ n, (s.runBounded n).2.stopReason = .cancelled ∧ ∃ m, s.Seen (s.runBounded n).1 0 m) ∧
      ∀ fuel, ∃ t r, s.run? fuel = some (t, r) ∧ r.stopReason = .cancelled ∧ ∃ m, s.Seen t 0 m

theorem reasonAt_eq_cancelled (s : Setting (Race ω)) (k : Nat) :
    s.reasonAt k = .cancelled ↔ (s.look k).world.token = true := by
  simp only [reasonAt, isCancelled]
  split <;> simp_all

/-- Where the token is set already, the first look finds it. -/
theorem stopsAfter_zero (hs : s.world.token = true) (budget : Nat) :
    (s.look 0).world.token = true ∧ s.StopsAfter budget 0 := by
  obtain ⟨m, hm, -⟩ := s.sees_look 0
  exact ⟨hm.kept hs, Nat.zero_le _, by simp, .inl (hm.kept hs)⟩

theorem heeds (s : Setting (Race ω)) : s.Heeds where
  bounded n := by
    obtain ⟨k, hk, -⟩ := s.exists_stopsAfter n.toNat
    rw [hk.runBounded]
    refine ⟨k, hk, ?_, s.reasonAt_eq_cancelled k, fun hmax => ?_, s.seen_stop k _ hk.before⟩
    · have := hk.le_budget
      have := n.toNat_lt
      simp only [stop_report, UInt64.toNat_ofNat']
      omega
    · refine hk.there.resolve_left fun hset => ?_
      rw [stop_report, (s.reasonAt_eq_cancelled k).2 hset] at hmax
      cases hmax
  unbounded fuel t r h := by
    obtain ⟨k, hk, hset, he⟩ := run?_eq_some.1 h
    obtain ⟨rfl, rfl⟩ := Prod.mk.inj he
    exact ⟨k, hk.before, hset, rfl, rfl, s.seen_stop k _ hk.before⟩
  returns k hset fuel hle := by
    obtain ⟨l, hl, -⟩ := s.exists_stopsAfter fuel
    refine ⟨_, run?_eq_some.2 ⟨l, hl, ?_, rfl⟩⟩
    -- A run that has used all its fuel has come past every look but the last.
    refine hl.there.elim id fun hfuel => ?_
    obtain rfl : k = l := by
      by_contra hne
      have hlt : k < l := by omega
      rw [show (s.look k).world.token = false from hl.before k hlt] at hset
      cases hset
    exact hset
  kept hs fuel ops t replies h := by
    obtain ⟨actions, hact⟩ := operateAll?_performAll h
    obtain ⟨m, hm, -⟩ := s.world.sees_performAll actions
    exact hact ▸ hm.kept hs
  idle hs := by
    refine ⟨fun n => ?_, fun fuel => ?_⟩
    · obtain ⟨hset, hk⟩ := stopsAfter_zero hs n.toNat
      rw [hk.runBounded]
      exact ⟨(s.reasonAt_eq_cancelled 0).2 hset, s.seen_stop 0 _ hk.before⟩
    · obtain ⟨hset, hk⟩ := stopsAfter_zero hs fuel
      exact ⟨_, _, run?_eq_some.2 ⟨0, hk, hset, rfl⟩, rfl, s.seen_stop 0 _ hk.before⟩

end Race

end Setting

/-! ## Benches with a fuse -/

/-- A bench whose fuse was good for `k` writes to the data register, behind `j` of them. -/
structure Bench.Burns (b : Bench) (k j : Nat) : Prop where
  fuse : b.fuse = some ⟨k - j, b.tokens.current⟩
  cancelled : b.tokens.isCancelled = decide (0 < j ∧ k ≤ j)

namespace Bench

variable {b : Bench} {k j : Nat}

theorem isCancelled_cancel (t : Tokens) : (t.cancel t.current).isCancelled = true := by
  unfold Tokens.cancel Tokens.isCancelled
  split
  · assumption
  · simp

theorem Burns.burn (h : b.Burns k j) : b.burn.Burns k (j + 1) := by
  have hburn : b.burn = { b with
      fuse := some ⟨k - j - 1, b.tokens.current⟩
      tokens := if k - j - 1 = 0 then b.tokens.cancel b.tokens.current else b.tokens } := by
    simp [Bench.burn, h.fuse]
  have hcurrent : (b.tokens.cancel b.tokens.current).current = b.tokens.current := by
    unfold Tokens.cancel
    split <;> rfl
  -- The fuse counts down to zero and no further, so behind its last write each write cancels again.
  by_cases hgone : k - j - 1 = 0
  · rw [hburn, if_pos hgone]
    exact ⟨by simp [hcurrent]; omega, by simp [isCancelled_cancel]; omega⟩
  · rw [hburn, if_neg hgone]
    exact ⟨by simp; omega, h.cancelled.trans (decide_eq_decide.2 (by omega))⟩

theorem Burns.perform (h : b.Burns k j) (a : Action) :
    (b.perform a).Burns k (j + dataCount [a]) := by
  cases a with
  | write w =>
    obtain ⟨r, v⟩ := w
    cases r with
    | direction => exact ⟨h.fuse, h.cancelled⟩
    | data =>
      have hport : Burns { b with
          port := b.port.write ⟨.data, v⟩
          journal := (b.port.writeMessages ⟨.data, v⟩).reverse ++ b.journal } k j :=
        ⟨h.fuse, h.cancelled⟩
      exact hport.burn
  | wait _ => exact ⟨h.fuse, h.cancelled⟩
  | tell observer e =>
    simp only [Bench.perform, tell]
    split
    · exact ⟨h.fuse, h.cancelled⟩
    · split <;> exact ⟨h.fuse, h.cancelled⟩
  | note _ => exact ⟨h.fuse, h.cancelled⟩

theorem Burns.performAll (h : b.Burns k j) (actions : List Action) :
    (Environment.performAll b actions).Burns k (j + dataCount actions) := by
  induction actions generalizing b j with
  | nil => exact h
  | cons a actions ih =>
    have := ih (h.perform a)
    rwa [Nat.add_assoc, ← dataCount_append] at this

end Bench

namespace Setting

variable {s : Setting Bench} {k : Nat}

theorem look_burns (h : s.world.Burns k 0) (i : Nat) : (s.look i).world.Burns k i := by
  induction i with
  | zero =>
    have hstart := h.performAll s.blinker.start.2
    rwa [← dataCount_calls, Blinker.calls_start, dataCount_openingCalls] at hstart
  | succ i ih =>
    have hstep := ih.performAll (s.look i).blinker.step.2
    rw [← dataCount_calls, Blinker.calls_step, dataCount_append, dataCount_openingCalls] at hstep
    rw [look_succ]
    exact hstep

/-- A fuse ends every run that would make more toggles than it is good for, and one toggle is made
in any case. -/
theorem stopsAfter_fuse (h : s.world.Burns k 0) (budget : Nat) :
    s.StopsAfter budget (min budget (max k 1)) where
  le_budget := Nat.min_le_left ..
  before i hi := (look_burns h i).cancelled.trans (decide_eq_false (by omega))
  there := by
    by_cases hle : max k 1 ≤ budget
    · rw [Nat.min_eq_right hle]
      exact .inl ((look_burns h _).cancelled.trans (decide_eq_true (by omega)))
    · exact .inr (by omega)

end Setting

/-! ## Main theorem -/

/-- Whoever sets the token, and at whatever moment: runs stop at the first look that finds it set, and
write one more value at most before they do. A fuse that is good for `k` writes ends a run behind
`max k 1` toggles, unless it has made all its toggles before. -/
theorem cancellation_heeded :
    (∀ (ω : Type) [Environment ω] (s : Setting (Race ω)), s.Heeds) ∧
      ∀ (s : Setting Bench) (k : Nat), s.world.fuse = some ⟨k, s.world.tokens.current⟩ →
        s.world.tokens.isCancelled = false →
        (∀ fuel, max k 1 ≤ fuel → ∃ t r, s.run? fuel = some (t, r) ∧
          s.StopsAfter fuel (max k 1) ∧ r.toggles = UInt64.ofNat (max k 1) ∧
          t.blinker.toggles = s.blinker.toggles + UInt64.ofNat (max k 1) ∧
          r.stopReason = .cancelled) ∧
        ∀ n : UInt64, s.StopsAfter n.toNat (min n.toNat (max k 1)) ∧
          (s.runBounded n).2.toggles.toNat = min n.toNat (max k 1) ∧
          ((s.runBounded n).2.stopReason = .cancelled ↔ max k 1 ≤ n.toNat) := by
  refine ⟨fun ω _ s => s.heeds, fun s k hfuse hfresh => ?_⟩
  have hburns : s.world.Burns k 0 := ⟨hfuse, hfresh⟩
  refine ⟨fun fuel hle => ?_, fun n => ?_⟩
  · have hk := Setting.stopsAfter_fuse hburns fuel
    rw [Nat.min_eq_right hle] at hk
    have hset : isCancelled (s.look (max k 1)).world = true :=
      (Setting.look_burns hburns _).cancelled.trans (decide_eq_true (by omega))
    exact ⟨_, _, Setting.run?_eq_some.2 ⟨_, hk, hset, rfl⟩, hk, rfl, s.look_toggles _, rfl⟩
  · have hk := Setting.stopsAfter_fuse hburns n.toNat
    refine ⟨hk, ?_, ?_⟩
    · have := n.toNat_lt
      simp only [hk.runBounded, Setting.stop_report, UInt64.toNat_ofNat']
      omega
    · have hset : isCancelled (s.look (min n.toNat (max k 1))).world =
          decide (0 < min n.toNat (max k 1) ∧ k ≤ min n.toNat (max k 1)) :=
        (Setting.look_burns hburns _).cancelled
      rw [hk.runBounded, Setting.stop_report, Setting.reasonAt, hset]
      by_cases hle : max k 1 ≤ n.toNat
      · simp only [hle, iff_true]
        rw [if_pos (by simp; omega)]
      · simp only [hle, iff_false]
        rw [if_neg (by simp; omega)]
        simp

/-- A race in which the token is set between the second look of a run and the toggle behind it. -/
def lateRace : Setting (Race Bench) where
  blinker := {}
  world := { world := { port := .recording {}, delay := .idle 0 }, strikes := (· == 14) }

/-- A bench with a fuse that goes off where a run of three toggles has made them all. -/
def evenBench : Setting Bench where
  blinker := {}
  world := { port := .recording {}, delay := .idle 0, fuse := some ⟨3, 0⟩ }

/-- The late toggle is still made. Of two reasons to stop at once, that the token is set counts. -/
theorem cancellation_heeded_late :
    (∃ t r, lateRace.run? 9 = some (t, r) ∧ r.toggles = 2 ∧ ∃ k,
      (∀ i < k, (lateRace.look i).world.token = false) ∧ (lateRace.look k).world.token = true ∧
      r.toggles = UInt64.ofNat k ∧ r.stopReason = .cancelled ∧ ∃ m, lateRace.Seen t k m) ∧
    evenBench.world.fuse = some ⟨3, evenBench.world.tokens.current⟩ ∧
    evenBench.world.tokens.isCancelled = false ∧
    ((evenBench.runBounded 3).2.stopReason = .cancelled ↔ max 3 1 ≤ (3 : UInt64).toNat) :=
  ⟨⟨_, _, rfl, rfl, (cancellation_heeded.1 Bench lateRace).unbounded 9 _ _ rfl⟩, rfl, rfl,
    ((cancellation_heeded.2 evenBench 3 rfl rfl).2 3).2.2⟩

end BlinkBench

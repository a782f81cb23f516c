import BlinkBench.Metrics
import BlinkBench.Proofs.Blinker.Delays
/-!
# What a blinker tells

A blinker tells those who listen of all that it has its port and its delay do, and of where its runs
begin and end. For each of its functions, and then for each operation, this says which events those are.
-/
namespace BlinkBench

open Environment

/-! ## Telling among actions -/

/-- Whom an action tells, and of what. -/
def Action.tell? : Action → Option (Nat × Event)
  | .tell observer event => some (observer, event)
  | _ => none

/-- Who is told of what by some actions. -/
def tells (actions : List Action) : List (Nat × Event) :=
  actions.filterMap Action.tell?

@[simp] theorem tells_nil : tells [] = [] := rfl

@[simp] theorem tells_append (l l' : List Action) : tells (l ++ l') = tells l ++ tells l' :=
  List.filterMap_append

@[simp] theorem tells_write (w : PortWrite) (l : List Action) : tells (.write w :: l) = tells l := rfl

@[simp] theorem tells_wait (iterations : UInt64) (l : List Action) :
    tells (.wait iterations :: l) = tells l := rfl

@[simp] theorem tells_note (message : Message) (l : List Action) :
    tells (.note message :: l) = tells l := rfl

@[simp] theorem tells_announce (b : Blinker) (e : Event) :
    tells (b.announce e) = b.observers.map (·, e) := by
  rw [tells, Blinker.announce, List.filterMap_map]
  exact congrFun List.filterMap_eq_map b.observers

/-- What the port and the delay are made to do where an event is told of. -/
def Event.calls : Event → List Action
  | .direction value => [.write ⟨.direction, value⟩]
  | .data value => [.write ⟨.data, value⟩]
  | .delay _ => delayCalls
  | .runStart | .runStop => []

/-- Counts that agree with what a blinker says of itself. -/
structure Metrics.Tracks (m : Metrics) (b : Blinker) : Prop where
  toggles : m.toggles = b.toggles
  delayIterations : m.delayIterations = b.delayIterations
  lastData : m.lastData = b.state.map PinState.pattern

theorem Metrics.Tracks.delay {m : Metrics} {b : Blinker} (hm : m.Tracks b) (iterations : UInt64) :
    (m.tell (.delay iterations)).Tracks
      { b with delayIterations := b.delayIterations + iterations } where
  toggles := hm.toggles
  delayIterations := congrArg (· + iterations) hm.delayIterations
  lastData := hm.lastData

/-! ## Events -/

/-- The event that tells that all pins were made outputs, where that was not done before. -/
def openingEvents (initialized : Bool) : List Event :=
  if initialized then [] else [.direction 0xFF]

/-- The events of a toggle that writes a value. -/
def toggleEvents (value : UInt8) : List Event :=
  [.data value, .delay 7600000]

/-- The events of an operation whose toggles write some values. -/
def Operation.events (initialized : Bool) (values : List UInt8) : Operation → List Event
  | .observe _ => []
  | .setDirection => [.direction 0xFF]
  | .pause => [.delay 7600000]
  | .step => openingEvents initialized ++ values.flatMap toggleEvents
  | .run | .runBounded _ =>
    openingEvents initialized ++ [.runStart] ++ values.flatMap toggleEvents ++ [.runStop]

/-- Some actions of a blinker, while these observers come, tell those who listen of just these events. -/
structure Tells (b b' : Blinker) (joined : List Nat) (events : List Event) (actions : List Action) :
    Prop where
  observers : b'.observers = b.observers ++ joined
  told : tells actions = events.flatMap fun e => b.observers.map (·, e)
  calls : calls actions = events.flatMap Event.calls
  counted {m : Metrics} (hm : m.Tracks b) : (events.foldl Metrics.tell m).Tracks b'

namespace Tells

theorem nil (b : Blinker) : Tells b b [] [] [] where
  observers := by simp
  told := rfl
  calls := rfl
  counted := id

theorem append {b b₁ b₂ : Blinker} {joined : List Nat} {events events' : List Event}
    {l l' : List Action} (h : Tells b b₁ [] events l) (h' : Tells b₁ b₂ joined events' l') :
    Tells b b₂ joined (events ++ events') (l ++ l') where
  observers := by rw [h'.observers, h.observers, List.append_nil]
  told := by
    rw [tells_append, h.told, h'.told, h.observers, List.append_nil, List.flatMap_append]
  calls := by rw [calls_append, h.calls, h'.calls, List.flatMap_append]
  counted hm := by
    rw [List.foldl_append]
    exact h'.counted (h.counted hm)

theorem observe (b : Blinker) (observer : Nat) : Tells b (b.observe observer) [observer] [] [] where
  observers := rfl
  told := rfl
  calls := rfl
  counted hm := ⟨hm.toggles, hm.delayIterations, hm.lastData⟩

end Tells

/-! ## The functions of a blinker -/

namespace Blinker

theorem setDirection_tells (b : Blinker) :
    Tells b b.setDirection.1 [] [.direction 0xFF] b.setDirection.2 where
  observers := by simp
  told := by
    have houtput : outputDirection = 0xFF := rfl
    simp [setDirection, houtput]
  calls := by
    rw [calls_setDirection]
    rfl
  counted hm := ⟨hm.toggles, hm.delayIterations, hm.lastData⟩

theorem prepare_tells (b : Blinker) :
    Tells b b.prepare.1 [] (openingEvents b.initialized) b.prepare.2 := by
  unfold prepare openingEvents
  split
  · exact .nil b
  · exact b.setDirection_tells

theorem delayIterations_eq : BlinkBench.delayIterations = 7600000 := by
  decide

theorem pause_tells (b : Blinker) : Tells b b.pause.1 [] [.delay 7600000] b.pause.2 where
  observers := by simp
  told := by simp [pause, delayOuter, List.replicate, delayIterations_eq]
  calls := by
    rw [calls_pause]
    rfl
  counted hm := by
    rw [pause_fst, delayIterations_eq]
    exact hm.delay 7600000

theorem flip_tells (b : Blinker) :
    Tells b b.flip.1 [] [.data (PinState.next b.state).pattern] b.flip.2 where
  observers := by simp [flip]
  told := by simp [flip]
  calls := by
    rw [calls_flip]
    rfl
  counted hm :=
    ⟨congrArg (· + 1) hm.toggles, hm.delayIterations, Metrics.lastData_apply_storeData _ _⟩

theorem step_tells (b : Blinker) : Tells b b.step.1 []
    (openingEvents b.initialized ++ toggleEvents (PinState.next b.state).pattern) b.step.2 := by
  have hactions : b.step.2 = b.prepare.2 ++ (b.prepare.1.flip.2 ++ b.prepare.1.flip.1.pause.2) :=
    List.append_assoc ..
  have hstate : b.prepare.1.state = b.state := by simp
  rw [hactions, ← hstate]
  exact b.prepare_tells.append (b.prepare.1.flip_tells.append b.prepare.1.flip.1.pause_tells)

/-- What is told of the clock of a run alone does not change the counts. -/
theorem announce_tells (b : Blinker) (e : Event) (message : Message)
    (he : e = .runStart ∨ e = .runStop) :
    Tells b b [] [e] (b.announce e ++ [.note message]) where
  observers := by simp
  told := by simp
  calls := by rcases he with rfl | rfl <;> simp [Action.isCall, Event.calls]
  counted hm := by
    rcases he with rfl | rfl <;> exact ⟨hm.toggles, hm.delayIterations, hm.lastData⟩

theorem start_tells (b : Blinker) :
    Tells b b.start.1 [] (openingEvents b.initialized ++ [.runStart]) b.start.2 := by
  have hactions : b.start.2 =
      b.prepare.2 ++ (b.prepare.1.announce .runStart ++ [.note .loopStarted]) :=
    List.append_assoc ..
  rw [hactions]
  exact b.prepare_tells.append (announce_tells _ _ _ (.inl rfl))

theorem finish_tells (b : Blinker) (toggles : UInt64) (reason : StopReason) :
    Tells b b [] [.runStop] (b.finish toggles reason).2 :=
  announce_tells _ _ _ (.inr rfl)

end Blinker

/-! ## Operations -/

namespace Setting

variable {ω : Type} [Environment ω] {s s' : Setting ω}

theorem look_tells (s : Setting ω) (k : Nat) : ∃ actions,
    (s.look k).world = performAll s.world actions ∧
    Tells s.blinker (s.look k).blinker [] (openingEvents s.blinker.initialized ++ [.runStart] ++
      (PinState.patterns s.blinker.state k).flatMap toggleEvents) actions := by
  refine look_actions (P := fun k actions => Tells s.blinker (s.look k).blinker []
    (openingEvents s.blinker.initialized ++ [.runStart] ++
      (PinState.patterns s.blinker.state k).flatMap toggleEvents) actions) s
    (by simpa using s.blinker.start_tells) ?_ k
  intro k actions htells
  -- Behind the first look all pins are outputs, so a toggle tells of nothing but itself.
  have hstep := (s.look k).blinker.step_tells
  rw [look_initialized, look_state] at hstep
  rw [look_succ, PinState.patterns_succ, List.flatMap_append, ← List.append_assoc,
    List.flatMap_singleton]
  exact htells.append hstep

theorem stop_tells (s : Setting ω) (k : Nat) (reason : StopReason) : ∃ actions,
    (s.stop k reason).1.world = performAll s.world actions ∧
    Tells s.blinker (s.stop k reason).1.blinker [] (openingEvents s.blinker.initialized ++
      [.runStart] ++ (PinState.patterns s.blinker.state k).flatMap toggleEvents ++ [.runStop])
      actions := by
  obtain ⟨actions, hactions, htells⟩ := s.look_tells k
  exact ⟨_, stop_world hactions reason,
    htells.append ((s.look k).blinker.finish_tells (UInt64.ofNat k) reason)⟩

/-- What an operation tells. -/
theorem Does.tells {op : Operation} {reply : Reply} {k : Nat} (h : s.Does op s' reply k) :
    ∃ actions, s'.world = Environment.performAll s.world actions ∧
      Tells s.blinker s'.blinker op.joins
        (op.events s.blinker.initialized (PinState.patterns s.blinker.state k)) actions := by
  cases h with
  | observe observer => exact ⟨[], rfl, .observe s.blinker observer⟩
  | setDirection => exact ⟨_, rfl, s.blinker.setDirection_tells⟩
  | pause => exact ⟨_, rfl, s.blinker.pause_tells⟩
  | step => exact ⟨_, rfl, s.blinker.step_tells⟩
  | run | runBounded => exact s.stop_tells k _

end Setting

end BlinkBench

import BlinkBench.Blinker.Basic
/-!
# Calls of the port and of the delay

Of all that a blinker does, its port sees the writes and its delay the waits. A toggle is one write
to the data register with two waits behind it, and the only other write is the one that makes all
pins outputs.
-/
namespace BlinkBench

/-! ## Calls among actions -/

/-- Whether an action reaches the port or the delay. -/
def Action.isCall : Action → Bool
  | .write _ | .wait _ => true
  | .tell .. | .note _ => false

/-- The calls of the port and of the delay among some actions. -/
def calls (actions : List Action) : List Action :=
  actions.filter Action.isCall

@[simp] theorem calls_nil : calls [] = [] := rfl

@[simp] theorem calls_append (l l' : List Action) : calls (l ++ l') = calls l ++ calls l' :=
  List.filter_append ..

@[simp] theorem calls_cons (a : Action) (l : List Action) :
    calls (a :: l) = if a.isCall then a :: calls l else calls l :=
  List.filter_cons

/-- The write that an action is, if it is one. -/
def Action.portWrite? : Action → Option PortWrite
  | .write w => some w
  | _ => none

/-- The writes to the port among some actions. -/
def portWrites (actions : List Action) : List PortWrite :=
  actions.filterMap Action.portWrite?

@[simp] theorem portWrites_write (w : PortWrite) (l : List Action) :
    portWrites (.write w :: l) = w :: portWrites l := rfl

@[simp] theorem portWrites_wait (iterations : UInt64) (l : List Action) :
    portWrites (.wait iterations :: l) = portWrites l := rfl

/-- The port sees nothing but calls. -/
theorem portWrites_calls (actions : List Action) : portWrites (calls actions) = portWrites actions := by
  induction actions with
  | nil => rfl
  | cons a l ih => cases a <;> simp_all [portWrites, List.filterMap_cons, Action.isCall, Action.portWrite?]

@[simp] theorem portWrites_append (l l' : List Action) :
    portWrites (l ++ l') = portWrites l ++ portWrites l' :=
  List.filterMap_append

/-- The values written to a register. -/
def valuesOf (r : PortRegister) (writes : List PortWrite) : List UInt8 :=
  (writes.filter (·.register = r)).map (·.value)

@[simp] theorem valuesOf_nil (r : PortRegister) : valuesOf r [] = [] := rfl

@[simp] theorem valuesOf_append (r : PortRegister) (l l' : List PortWrite) :
    valuesOf r (l ++ l') = valuesOf r l ++ valuesOf r l' := by
  simp [valuesOf]

@[simp] theorem valuesOf_cons (r r' : PortRegister) (v : UInt8) (l : List PortWrite) :
    valuesOf r (⟨r', v⟩ :: l) = if r' = r then v :: valuesOf r l else valuesOf r l := by
  by_cases h : r' = r <;> simp [valuesOf, h]

/-! ## Parts of a run -/

/-- The call that makes all pins outputs, where that was not done before. -/
def openingCalls (initialized : Bool) : List Action :=
  if initialized then [] else [.write ⟨.direction, outputDirection⟩]

/-- The calls of one delay. -/
def delayCalls : List Action :=
  [.wait delayInner, .wait delayInner]

/-- The calls of a toggle that writes a value. -/
def toggleCalls (value : UInt8) : List Action :=
  .write ⟨.data, value⟩ :: delayCalls

theorem portWrites_openingCalls (initialized : Bool) : portWrites (openingCalls initialized) =
    if initialized then [] else [⟨.direction, outputDirection⟩] := by
  cases initialized <;> rfl

/-- Toggles write nothing but their values. -/
theorem portWrites_toggles (values : List UInt8) :
    portWrites (values.flatMap toggleCalls) = values.map (⟨.data, ·⟩) := by
  induction values with
  | nil => rfl
  | cons v values ih =>
    rw [List.flatMap_cons, portWrites_append, ih]
    rfl

namespace Blinker

@[simp] theorem calls_announce (b : Blinker) (e : Event) : calls (b.announce e) = [] := by
  simp [calls, announce, Action.isCall]

theorem calls_setDirection (b : Blinker) : calls b.setDirection.2 = openingCalls false := by
  simp [setDirection, openingCalls, Action.isCall]

@[simp] theorem calls_prepare (b : Blinker) : calls b.prepare.2 = openingCalls b.initialized := by
  unfold prepare
  split
  · simp_all [openingCalls]
  · simp_all [calls_setDirection]

@[simp] theorem prepare_fst (b : Blinker) : b.prepare.1 = { b with initialized := true } := by
  unfold prepare
  split
  · rename_i h
    rw [← h]
  · rfl

@[simp] theorem setDirection_fst (b : Blinker) :
    b.setDirection.1 = { b with initialized := true } := rfl

@[simp] theorem pause_fst (b : Blinker) : b.pause.1 =
    { b with delayIterations := b.delayIterations + BlinkBench.delayIterations } := by
  unfold pause
  rfl

@[simp] theorem step_fst (b : Blinker) : b.step.1 =
    { b with
      initialized := true
      state := some (PinState.next b.state)
      toggles := b.toggles + 1
      delayIterations := b.delayIterations + BlinkBench.delayIterations } := by
  simp [step, flip]

@[simp] theorem calls_pause (b : Blinker) : calls b.pause.2 = delayCalls := by
  simp [pause, delayOuter, delayCalls, List.replicate, Action.isCall]

@[simp] theorem calls_flip (b : Blinker) :
    calls b.flip.2 = [.write ⟨.data, (PinState.next b.state).pattern⟩] := by
  simp [flip, Action.isCall]

/-- A toggle writes the pattern that follows, and waits. -/
theorem calls_step (b : Blinker) : calls b.step.2 =
    openingCalls b.initialized ++ toggleCalls (PinState.next b.state).pattern := by
  simp [step, toggleCalls]

@[simp] theorem calls_start (b : Blinker) : calls b.start.2 = openingCalls b.initialized := by
  simp [start, Action.isCall]

@[simp] theorem start_fst (b : Blinker) : b.start.1 = { b with initialized := true } := by
  simp [start]

@[simp] theorem calls_finish (b : Blinker) (toggles : UInt64) (reason : StopReason) :
    calls (b.finish toggles reason).2 = [] := by
  simp [finish, Action.isCall]

end Blinker

/-! ## What is shown -/

namespace PinState

/-- What a pin shows behind so many toggles. -/
def after (state : Option PinState) : Nat → Option PinState
  | 0 => state
  | n + 1 => some (next (after state n))

/-- The values that so many toggles write. -/
def patterns (state : Option PinState) (n : Nat) : List UInt8 :=
  (List.range n).map fun k => (next (after state k)).pattern

@[simp] theorem patterns_zero (state : Option PinState) : patterns state 0 = [] := rfl

@[simp] theorem length_patterns (state : Option PinState) (n : Nat) :
    (patterns state n).length = n := by
  simp [patterns]

theorem patterns_succ (state : Option PinState) (n : Nat) :
    patterns state (n + 1) = patterns state n ++ [(next (after state n)).pattern] := by
  simp [patterns, List.range_succ]

theorem after_add (state : Option PinState) (m n : Nat) :
    after state (m + n) = after (after state m) n := by
  induction n with
  | zero => rfl
  | succ n ih => rw [← Nat.add_assoc, after, after, ih]

theorem patterns_add (state : Option PinState) (m n : Nat) :
    patterns state (m + n) = patterns state m ++ patterns (after state m) n := by
  induction n with
  | zero => simp
  | succ n ih => rw [← Nat.add_assoc, patterns_succ, ih, patterns_succ, after_add, List.append_assoc]

/-- The value written last is the pattern of what a pin shows. -/
theorem getLast?_patterns_none (n : Nat) :
    (patterns none n).getLast? = (after none n).map pattern := by
  cases n with
  | zero => rfl
  | succ n => rw [patterns_succ, List.getLast?_concat, after, Option.map_some]

/-- A pin that was never given a level is low behind an odd number of toggles. -/
theorem after_none (n : Nat) :
    after none n = if n = 0 then none else if n % 2 = 1 then some low else some high := by
  induction n with
  | zero => rfl
  | succ n ih =>
    rw [after, ih]
    grind [next]

/-- A pin that was never given a level is shown low and high in turn. -/
theorem patterns_none (n : Nat) :
    patterns none n = (List.range n).map fun k => if k % 2 = 0 then 0xFE else 0xFF := by
  refine List.map_congr_left fun k _ => ?_
  rw [after_none]
  have hlow : pattern low = 0xFE := rfl
  have hhigh : pattern high = 0xFF := rfl
  grind [next]

end PinState

end BlinkBench

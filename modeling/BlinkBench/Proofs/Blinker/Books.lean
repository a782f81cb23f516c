import BlinkBench.Proofs.Blinker.Calls
/-!
# The books of a blinker

A blinker makes its delay wait, counts the rounds that it asks for, and tells its observers of them.
What that comes to is added up here, for everything that a blinker does.
-/
namespace BlinkBench

/-! ## Rounds among actions -/

/-- The rounds that an action waits for. -/
@[simp] def Action.rounds : Action → Nat
  | .wait iterations => iterations.toNat
  | _ => 0

/-- The rounds that an event tells of. -/
@[simp] def Event.rounds : Event → Nat
  | .delay iterations => iterations.toNat
  | _ => 0

/-- The rounds that an action tells an observer of. -/
@[simp] def Action.toldRounds (observer : Nat) : Action → Nat
  | .tell o e => if o = observer then e.rounds else 0
  | _ => 0

open BlinkBench.Action (rounds toldRounds)

/-- What some actions come to, all together. -/
def tally (count : Action → Nat) : List Action → Nat
  | [] => 0
  | a :: actions => count a + tally count actions

section Tally

variable (count : Action → Nat)

@[simp] theorem tally_nil : tally count [] = 0 := rfl

@[simp] theorem tally_cons (a : Action) (l : List Action) :
    tally count (a :: l) = count a + tally count l := rfl

@[simp] theorem tally_append (l l' : List Action) :
    tally count (l ++ l') = tally count l + tally count l' := by
  induction l with
  | nil => simp
  | cons a l ih => rw [List.cons_append, tally_cons, ih, tally_cons, Nat.add_assoc]

end Tally

/-- Waits are calls. -/
theorem rounds_calls (actions : List Action) :
    tally rounds (calls actions) = tally rounds actions := by
  induction actions with
  | nil => rfl
  | cons a l ih => cases a <;> simp [Action.isCall, ih]

@[simp] theorem rounds_announce (b : Blinker) (e : Event) : tally rounds (b.announce e) = 0 := by
  rw [← rounds_calls, Blinker.calls_announce]
  rfl

@[simp] theorem toldRounds_announce (o : Nat) (b : Blinker) (e : Event) :
    tally (toldRounds o) (b.announce e) = b.observers.count o * e.rounds := by
  rw [Blinker.announce]
  induction b.observers with
  | nil => simp
  | cons o' observers ih =>
    rw [List.map_cons, tally_cons, ih, List.count_cons]
    by_cases h : o' = o
    · simp [h, Nat.add_mul, Nat.add_comm]
    · simp [h]

/-! ## Calls in their order -/

/-- Calls in which each write to the data register is followed by two waits at once, and all other
waits come in pairs, of which there are so many. -/
inductive Paced : Nat → List Action → Prop
  | nil : Paced 0 []
  | direction {n : Nat} {calls : List Action} (v : UInt8) :
    Paced n calls → Paced n (.write ⟨.direction, v⟩ :: calls)
  | toggle {n : Nat} {calls : List Action} (v : UInt8) :
    Paced n calls → Paced n (.write ⟨.data, v⟩ :: .wait 3800000 :: .wait 3800000 :: calls)
  | pause {n : Nat} {calls : List Action} :
    Paced n calls → Paced (n + 1) (.wait 3800000 :: .wait 3800000 :: calls)

namespace Paced

theorem append {m n : Nat} {l l' : List Action} (h : Paced m l) (h' : Paced n l') :
    Paced (m + n) (l ++ l') := by
  induction h with
  | nil => simpa using h'
  | direction v _ ih => exact ih.direction v
  | toggle v _ ih => exact ih.toggle v
  | pause _ ih =>
    rw [Nat.add_right_comm]
    exact ih.pause

theorem rounds_pair (l : List Action) :
    tally rounds (.wait 3800000 :: .wait 3800000 :: l) = 7600000 + tally rounds l := by
  rw [tally_cons, tally_cons, ← Nat.add_assoc]
  rfl

/-- As many rounds are waited for as there are writes to the data register and pairs of their own. -/
theorem rounds_eq {n : Nat} {l : List Action} (h : Paced n l) :
    tally rounds l = 7600000 * ((valuesOf .data (portWrites l)).length + n) := by
  induction h with
  | nil => rfl
  | direction v _ ih => simpa using ih
  | toggle v _ ih =>
    rw [tally_cons, rounds_pair, ih]
    simp only [rounds, portWrites_write, portWrites_wait, valuesOf_cons, if_pos, List.length_cons]
    omega
  | pause _ ih =>
    rw [rounds_pair, ih, portWrites_wait, portWrites_wait]
    omega

theorem of_openingCalls (initialized : Bool) : Paced 0 (openingCalls initialized) := by
  cases initialized
  · exact .direction _ .nil
  · exact .nil

end Paced

/-! ## The books of a blinker -/

/-- What some actions of a blinker, with so many pauses among them, add to the rounds of its delays,
while these observers come. -/
structure Books (b b' : Blinker) (pauses : Nat) (joined : List Nat) (actions : List Action) :
    Prop where
  observers : b'.observers = b.observers ++ joined
  paced : Paced pauses (calls actions)
  asked : b'.delayIterations = b.delayIterations + UInt64.ofNat (tally rounds actions)
  told : ∀ o ∉ joined, tally (toldRounds o) actions = b.observers.count o * tally rounds actions

namespace Books

theorem nil (b : Blinker) : Books b b 0 [] [] where
  observers := by simp
  paced := .nil
  asked := by simp
  told o _ := by simp

theorem append {b b₁ b₂ : Blinker} {m n : Nat} {joined joined' : List Nat} {l l' : List Action}
    (h : Books b b₁ m joined l) (h' : Books b₁ b₂ n joined' l') :
    Books b b₂ (m + n) (joined ++ joined') (l ++ l') where
  observers := by rw [h'.observers, h.observers, List.append_assoc]
  paced := by
    rw [calls_append]
    exact h.paced.append h'.paced
  asked := by rw [h'.asked, h.asked, tally_append, UInt64.ofNat_add, UInt64.add_assoc]
  told o ho := by
    rw [List.mem_append, not_or] at ho
    -- Who did not come while the first actions happened is told as often behind them as before.
    have hcount : b₁.observers.count o = b.observers.count o := by
      rw [h.observers, List.count_append, List.count_eq_zero.2 ho.1, Nat.add_zero]
    rw [tally_append, tally_append, h.told o ho.1, h'.told o ho.2, hcount, Nat.mul_add]

/-- One who comes is told of nothing yet. -/
theorem observe (b : Blinker) (observer : Nat) : Books b (b.observe observer) 0 [observer] [] :=
  { nil b with
    observers := rfl
    told := fun o _ => by simp }

end Books

namespace Blinker

/-- Actions that neither wait nor tell of a delay leave the books as they are. -/
theorem books_of_rounds {b b' : Blinker} {actions : List Action}
    (hobservers : b'.observers = b.observers) (hpaced : Paced 0 (calls actions))
    (hasked : b'.delayIterations = b.delayIterations) (hrounds : tally rounds actions = 0)
    (htold : ∀ o, tally (toldRounds o) actions = 0) : Books b b' 0 [] actions where
  observers := by rw [hobservers, List.append_nil]
  paced := hpaced
  asked := by simp [hasked, hrounds]
  told o _ := by rw [htold, hrounds, Nat.mul_zero]

theorem setDirection_books (b : Blinker) : Books b b.setDirection.1 0 [] b.setDirection.2 := by
  refine books_of_rounds rfl ?_ rfl (by simp [setDirection]) fun o => by simp [setDirection]
  rw [calls_setDirection]
  exact .of_openingCalls false

theorem prepare_books (b : Blinker) : Books b b.prepare.1 0 [] b.prepare.2 := by
  unfold prepare
  split
  · exact .nil b
  · exact b.setDirection_books

theorem rounds_pause (b : Blinker) : tally rounds b.pause.2 = 7600000 := by
  rw [← rounds_calls, calls_pause]
  rfl

theorem toldRounds_pause (b : Blinker) (o : Nat) :
    tally (toldRounds o) b.pause.2 = b.observers.count o * 7600000 := by
  have hwaits : tally (toldRounds o) (List.replicate delayOuter (.wait delayInner)) = 0 := rfl
  rw [pause, tally_append, hwaits, Nat.zero_add, toldRounds_announce]
  rfl

theorem pause_books (b : Blinker) : Books b b.pause.1 1 [] b.pause.2 where
  observers := by simp
  paced := by
    rw [calls_pause]
    exact Paced.nil.pause
  asked := by
    rw [rounds_pause]
    rfl
  told o _ := by rw [toldRounds_pause, rounds_pause]

theorem rounds_flip (b : Blinker) : tally rounds b.flip.2 = 0 := by
  simp [flip]

theorem toldRounds_flip (b : Blinker) (o : Nat) : tally (toldRounds o) b.flip.2 = 0 := by
  simp [flip]

/-- A toggle has a delay of its own. -/
theorem toggle_books (b : Blinker) :
    Books b b.flip.1.pause.1 0 [] (b.flip.2 ++ b.flip.1.pause.2) where
  observers := by simp [flip]
  paced := by
    rw [calls_append, calls_flip, calls_pause]
    exact Paced.nil.toggle _
  asked := by
    rw [tally_append, rounds_flip, rounds_pause]
    rfl
  told o _ := by
    rw [tally_append, tally_append, rounds_flip, toldRounds_flip, rounds_pause, toldRounds_pause,
      Nat.zero_add, Nat.zero_add]
    rfl

theorem step_books (b : Blinker) : Books b b.step.1 0 [] b.step.2 := by
  have hactions : b.step.2 = b.prepare.2 ++ (b.prepare.1.flip.2 ++ b.prepare.1.flip.1.pause.2) :=
    List.append_assoc ..
  rw [hactions]
  exact b.prepare_books.append b.prepare.1.toggle_books

theorem start_books (b : Blinker) : Books b b.start.1 0 [] b.start.2 := by
  have hactions : b.start.2 =
      b.prepare.2 ++ (b.prepare.1.announce .runStart ++ [.note .loopStarted]) :=
    List.append_assoc ..
  rw [hactions]
  refine b.prepare_books.append (books_of_rounds rfl ?_ rfl (by simp) fun o => by simp)
  simpa [Action.isCall] using Paced.nil

theorem finish_books (b : Blinker) (toggles : UInt64) (reason : StopReason) :
    Books b b 0 [] (b.finish toggles reason).2 := by
  refine books_of_rounds rfl ?_ rfl (by simp [finish]) fun o => by simp [finish]
  rw [calls_finish]
  exact .nil

end Blinker

end BlinkBench

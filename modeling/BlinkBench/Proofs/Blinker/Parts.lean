import BlinkBench.Bench
import BlinkBench.Proofs.Blinker.Runs
/-!
# Parts of a world

Of a world in which a blinker acts, the port takes the writes and the delay takes the waits. What becomes
of them can be told from the record of all actions, whatever else there is in the world.
-/
namespace BlinkBench

open Environment

/-- A part of a world that changes with each action in its own way, whatever the rest does. -/
structure Part {ω π : Type} [Environment ω] (part : ω → π) (act : π → Action → π) : Prop where
  perform : ∀ w a, part (perform w a) = act (part w) a

section Part

variable {ω π : Type} [Environment ω] {part : ω → π} {act : π → Action → π}

theorem Part.performAll (h : Part part act) (w : ω) (actions : List Action) :
    part (performAll w actions) = actions.foldl act (part w) := by
  induction actions generalizing w with
  | nil => rfl
  | cons a actions ih =>
    rw [List.foldl_cons, ← h.perform]
    exact ih (Environment.perform w a)

/-- A part that only calls can change is what the calls make of it. -/
theorem Part.performAll_calls (h : Part part act) (hact : ∀ p a, a.isCall = false → act p a = p)
    (w : ω) (actions : List Action) :
    part (Environment.performAll w actions) = (calls actions).foldl act (part w) := by
  rw [h.performAll]
  generalize part w = p
  induction actions generalizing p with
  | nil => rfl
  | cons a actions ih =>
    rw [List.foldl_cons, ih, calls_cons]
    split
    · rfl
    · rename_i hcall
      rw [hact p a (by simpa using hcall)]

/-- A part of a world is a part of the world with a record. -/
theorem Part.recorded (h : Part part act) : Part (fun r : Recorded ω => part r.world) act :=
  ⟨fun r a => h.perform r.world a⟩

/-- What operations make of a part is what the actions on the record make of it. -/
theorem Part.of_operateAll? (h : Part part act) {b : Blinker} {w : ω} {fuel : Nat}
    {ops : List Operation} {s : Setting (Recorded ω)} {replies : List Reply}
    (hops : (⟨b, ⟨w, []⟩⟩ : Setting (Recorded ω)).operateAll? fuel ops = some (s, replies)) :
    part s.world.world = s.world.actions.foldl act (part w) := by
  obtain ⟨actions, hactions⟩ := Setting.operateAll?_performAll hops
  have hall : s.world.actions = actions := by
    rw [hactions, Recorded.chronicle.performAll]
    rfl
  rw [hall, hactions]
  exact h.recorded.performAll _ actions

end Part

/-! ## Ports and delays -/

/-- A port takes the writes and no other action. -/
def Port.act (p : Port) : Action → Port
  | .write w => p.write w
  | _ => p

theorem Port.act_of_not_call (p : Port) (a : Action) (ha : a.isCall = false) : p.act a = p := by
  cases a with
  | write | wait => cases ha
  | tell | note => rfl

theorem Port.foldl_act (p : Port) (actions : List Action) :
    actions.foldl Port.act p = (portWrites actions).foldl Port.write p := by
  induction actions generalizing p with
  | nil => rfl
  | cons a actions ih =>
    rw [List.foldl_cons, ih]
    cases a <;> rfl

theorem Port.foldl_bus (p : BusPort) (writes : List PortWrite) :
    writes.foldl Port.write (.bus p) = .bus (writes.foldl BusPort.write p) := by
  induction writes generalizing p with
  | nil => rfl
  | cons w writes ih => exact ih (p.write w)

/-- A delay takes the waits and no other action. -/
def Delay.act (d : Delay) : Action → Delay
  | .wait iterations => d.wait iterations
  | _ => d

theorem Delay.act_of_not_call (d : Delay) (a : Action) (ha : a.isCall = false) : d.act a = d := by
  cases a with
  | write | wait => cases ha
  | tell | note => rfl

namespace Bench

theorem perform_port_delay (b : Bench) (a : Action) :
    (b.perform a).port = b.port.act a ∧ (b.perform a).delay = b.delay.act a := by
  cases a with
  | write w =>
    obtain ⟨_ | _, v⟩ := w
    · exact ⟨rfl, rfl⟩
    · simp only [perform, write, burn]
      split <;> exact ⟨rfl, rfl⟩
  | tell observer e =>
    simp only [perform, tell]
    split
    · exact ⟨rfl, rfl⟩
    · split <;> exact ⟨rfl, rfl⟩
  | wait | note => exact ⟨rfl, rfl⟩

theorem port_part : Part Bench.port Port.act :=
  ⟨fun b a => (b.perform_port_delay a).1⟩

theorem delay_part : Part Bench.delay Delay.act :=
  ⟨fun b a => (b.perform_port_delay a).2⟩

end Bench

end BlinkBench

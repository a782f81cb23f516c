import BlinkBench.Port
import BlinkBench.Proofs.Blinker.Runs
import BlinkBench.Proofs.Bus.Changes
/-!
# Buses in use

Once a bus is there, bytes are written to it, and blinkers write to ports of it. Both come down to
writes, so what every write keeps is kept by all use, whatever the delays, the observers and the
cancellations are.
-/
namespace BlinkBench

open Environment

/-! ## Ports in a world -/

/-- A world in which what a blinker writes goes to a port of a bus, and nothing else does. -/
structure Carries {ω : Type} [Environment ω] (port : ω → BusPort) : Prop where
  write : ∀ w x, port (perform w (.write x)) = (port w).write x
  other : ∀ w a, (∀ x, a ≠ .write x) → port (perform w a) = port w

/-- The port of a world gets the writes, and nothing else. -/
theorem Carries.performAll {ω : Type} [Environment ω] {port : ω → BusPort} (h : Carries port) (w : ω)
    (actions : List Action) : port (performAll w actions) =
      (portWrites actions).foldl BusPort.write (port w) := by
  induction actions generalizing w with
  | nil => rfl
  | cons a actions ih =>
    show port (Environment.performAll (perform w a) actions) = _
    rw [ih]
    cases a with
    | write x =>
      rw [h.write]
      rfl
    | wait | tell | note =>
      rw [h.other w _ fun x hx => by cases hx]
      rfl

theorem BusPort.bus_write (p : BusPort) (w : PortWrite) : (p.write w).bus =
    (p.bus.write (p.address w.register) w.value).toOption.getD p.bus := by
  unfold write
  split <;> rename_i hwrite <;> rw [hwrite] <;> rfl

/-! ## Writes and runs -/

namespace Bus

/-- A bus as it may be behind writes and uses of a blinker on one of its ports. -/
inductive Used (bus : Bus) : Bus → Prop
  | fresh : bus.Used bus
  | write {mid bus' : Bus} {a : UInt64} {v : UInt8} (h : bus.Used mid)
      (hwrite : mid.write a v = .ok bus') : bus.Used bus'
  | run {ω : Type} [Environment ω] {port : ω → BusPort} (hport : Carries port) {s s' : Setting ω}
      {fuel : Nat} {ops : List Operation} {replies : List Reply} (h : bus.Used (port s.world).bus)
      (hops : s.operateAll? fuel ops = some (s', replies)) : bus.Used (port s'.world).bus

variable {bus bus' : Bus} {P : Bus → Prop}

theorem foldl_write_keeps (hwrite : ∀ {bus : Bus} {a : UInt64} {v : UInt8} {bus' : Bus}, P bus →
    bus.write a v = .ok bus' → P bus') {port : BusPort} (hP : P port.bus) (writes : List PortWrite) :
    P (writes.foldl BusPort.write port).bus := by
  induction writes generalizing port with
  | nil => exact hP
  | cons w writes ih =>
    refine ih ?_
    rw [BusPort.bus_write]
    exact keep_or hP fun bus' h => hwrite hP h

/-- What every write keeps is kept by all use. -/
theorem Used.keeps (hwrite : ∀ {bus : Bus} {a : UInt64} {v : UInt8} {bus' : Bus}, P bus →
    bus.write a v = .ok bus' → P bus') (h : bus.Used bus') (hP : P bus) : P bus' := by
  induction h with
  | fresh => exact hP
  | write _ h ih => exact hwrite ih h
  | run hport _ hops ih =>
    obtain ⟨actions, hactions⟩ := Setting.operateAll?_performAll hops
    rw [hactions, hport.performAll]
    exact foldl_write_keeps hwrite ih _

end Bus

end BlinkBench

import BlinkBench.Metrics
import BlinkBench.Proofs.Blinker.Books
import Mathlib.Algebra.GroupWithZero.Nat
import Mathlib.Data.List.Induction
/-!
# What counts come to

Events that are told one at a time are counted, and the last value written is kept. Updates that are
mixed up with those of other calls come to the same as calls that are made one at a time, in the order
in which they are over: only the toggles are counted before that.
-/
namespace BlinkBench

/-- The value that an event tells was written to a data register. -/
@[simp] def Event.data? : Event → Option UInt8
  | .data value => some value
  | _ => none

namespace Metrics

/-! ## Events one at a time -/

/-- What counts say of events that were told one at a time. -/
structure Sums (m : Metrics) (events : List Event) : Prop where
  toggles : m.toggles = UInt64.ofNat (events.filterMap Event.data?).length
  delayIterations : m.delayIterations = UInt64.ofNat (events.map Event.rounds).sum
  lastData : m.lastData = (events.filterMap Event.data?).getLast?

theorem Sums.tell {m : Metrics} {events : List Event} (h : m.Sums events) (e : Event) :
    (m.tell e).Sums (events ++ [e]) where
  toggles := by
    cases e <;> simp [Metrics.tell, updates, apply, h.toggles, List.filterMap_cons]
  delayIterations := by
    cases e <;> simp [Metrics.tell, updates, apply, h.delayIterations]
  lastData := by
    cases e with
    | data value => simp [Metrics.tell, updates]
    | runStart | runStop | direction | delay =>
      rw [List.filterMap_append, List.filterMap_cons_none rfl, List.filterMap_nil, List.append_nil]
      exact h.lastData

theorem sums_foldl (events : List Event) : (events.foldl tell {}).Sums events := by
  induction events using List.reverseRecOn with
  | nil => exact ⟨rfl, rfl, rfl⟩
  | append_singleton events e ih =>
    rw [List.foldl_append]
    exact ih.tell e

/-- Whether nothing is updated when an event is told. -/
def isSilent (e : Event) : Bool :=
  (updates e).isEmpty

/-- Events that update nothing are told in vain. -/
theorem foldl_of_isSilent {events : List Event} (h : ∀ e ∈ events, isSilent e = true) (m : Metrics) :
    events.foldl tell m = m := by
  induction events with
  | nil => rfl
  | cons e events ih =>
    have hnone : updates e = [] := List.isEmpty_iff.1 (h e List.mem_cons_self)
    rw [List.foldl_cons, tell, hnone, List.foldl_nil]
    exact ih fun e he => h e (List.mem_cons_of_mem _ he)

/-! ## Updates in any order -/

/-- The event whose call is over with an update, if there is one. -/
@[simp] def Update.ends? : Update → Option Event
  | .startClock => some .runStart
  | .stopClock => some .runStop
  | .countToggle => none
  | .storeData value => some (.data value)
  | .addDelay iterations => some (.delay iterations)

/-- The value that an update stores, if it does. -/
@[simp] def Update.stored? : Update → Option UInt8
  | .storeData value => some value
  | _ => none

theorem Update.ends?_bind_data? (u : Update) : u.ends?.bind Event.data? = u.stored? := by
  cases u <;> rfl

theorem Update.stored?_eq_some {u : Update} {value : UInt8} :
    u.stored? = some value ↔ u = .storeData value := by
  cases u <;> simp

/-- In whatever order updates come, they leave what the calls leave that are over with them, but for the
toggles, which are counted before. -/
theorem foldl_apply (us : List Update) : us.foldl apply {} =
    { (us.filterMap Update.ends?).foldl tell {} with
      toggles := UInt64.ofNat (us.count .countToggle) } := by
  induction us using List.reverseRecOn with
  | nil => rfl
  | append_singleton us u ih =>
    rw [List.foldl_append, ih, List.filterMap_append, List.foldl_append, List.count_append]
    cases u <;> simp [List.filterMap_cons, apply, tell, updates]

/-- The calls that tell of a value are those that count a toggle. -/
theorem count_updates (events : List Event) :
    (events.flatMap updates).count .countToggle = (events.filterMap Event.data?).length := by
  induction events with
  | nil => rfl
  | cons e events ih =>
    rw [List.flatMap_cons, List.count_append, ih]
    cases e <;> simp [updates, List.filterMap_cons, Nat.add_comm]

/-- Each call that updates anything is over with one of its updates. -/
theorem ends_updates (events : List Event) :
    (events.flatMap updates).filterMap Update.ends? = events.filter fun e => !isSilent e := by
  induction events with
  | nil => rfl
  | cons e events ih =>
    rw [List.flatMap_cons, List.filterMap_append, ih]
    cases e <;> simp [isSilent, updates, List.filterMap_cons]

/-- Only a call that tells of a value stores it. -/
theorem storeData_mem_updates {e : Event} {value : UInt8} :
    .storeData value ∈ updates e ↔ e = .data value := by
  cases e <;> simp [updates, eq_comm]

end Metrics

end BlinkBench

import BlinkBench.Event
/-!
# Metrics

Counts of what blinkers do. Several of them may tell the same counts at once, so an event is
taken up in updates, each of which happens at one moment. What changes at one moment is a word, so
the last value written is kept as a word too, and the greatest one stands for no value.
-/
namespace BlinkBench

/-- Counts of what blinkers do. -/
structure Metrics where
  /-- The writes to data registers. -/
  toggles : UInt64 := 0
  /-- The rounds of the delay loop. -/
  delayIterations : UInt64 := 0
  /-- The last value written to a data register, or the greatest word while there is none. -/
  lastWord : UInt64 := 0xFFFFFFFFFFFFFFFF
  /-- Whether the clock of the run stands still. -/
  stopped : Bool := false
deriving DecidableEq, Repr

/-- The byte that a word is, if it is one. -/
def byte? (w : UInt64) : Option UInt8 :=
  if w < 256 then some w.toUInt8 else none

@[simp] theorem byte?_toUInt64 (v : UInt8) : byte? v.toUInt64 = some v := by
  have hlt : v.toUInt64 < 256 := by
    rw [UInt64.lt_iff_toNat_lt, UInt8.toNat_toUInt64]
    exact v.toNat_lt
  rw [byte?, if_pos hlt, UInt8.toUInt8_toUInt64]

namespace Metrics

/-- The last value written to a data register. -/
def lastData (m : Metrics) : Option UInt8 :=
  byte? m.lastWord

/-- What happens to counts at one moment. -/
inductive Update where
  | startClock
  | stopClock
  | countToggle
  | storeData (value : UInt8)
  | addDelay (iterations : UInt64)
deriving DecidableEq, Repr

/-- The counts behind an update. -/
def apply (m : Metrics) : Update → Metrics
  | .startClock => { m with stopped := false }
  | .stopClock => { m with stopped := true }
  | .countToggle => { m with toggles := m.toggles + 1 }
  | .storeData value => { m with lastWord := value.toUInt64 }
  | .addDelay iterations => { m with delayIterations := m.delayIterations + iterations }

@[simp] theorem lastData_apply_storeData (m : Metrics) (v : UInt8) :
    (m.apply (.storeData v)).lastData = some v :=
  byte?_toUInt64 v

/-- The updates that an event makes, in their order. -/
def updates : Event → List Update
  | .runStart => [.startClock]
  | .runStop => [.stopClock]
  | .direction _ => []
  | .data value => [.countToggle, .storeData value]
  | .delay iterations => [.addDelay iterations]

/-- The counts behind an event. -/
def tell (m : Metrics) (e : Event) : Metrics :=
  (updates e).foldl apply m

end Metrics

end BlinkBench

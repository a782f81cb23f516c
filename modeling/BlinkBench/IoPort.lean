import BlinkBench.History
import BlinkBench.Message
import BlinkBench.Manifest.Basic
import BlinkBench.PortRegister
/-!
# I/O ports

A port has eight pins, each with a bit in every register. A pin whose direction bit is set is an
output and has the level that was written to it. Any other pin is an input: its data bit is the
level that is driven from outside.
-/
namespace BlinkBench

/-- A port of eight pins. -/
structure IoPort where
  /-- The direction register: a bit is set where the pin is an output. -/
  ddr : UInt8
  /-- The data register. -/
  dr : UInt8
  /-- The levels driven from outside. -/
  input : UInt8
  /-- The levels at the output pins, and no other bits. -/
  output : UInt8
  /-- What was written to the data register. -/
  dataWrites : History
  /-- The output behind every write. -/
  outputs : History
deriving DecidableEq, Repr

namespace IoPort

/-- A port after reset. All pins are inputs. -/
def new (limit : Nat) : IoPort where
  ddr := 0
  dr := 0
  input := 0
  output := 0
  dataWrites := .new limit
  outputs := .new limit

/-- A port after reset, where there can be room for its histories. -/
def new? (limit : Nat) : Option IoPort := do
  return { new limit with dataWrites := ← History.new? limit, outputs := ← History.new? limit }

theorem new?_eq (limit : Nat) :
    new? limit = if limit ≤ History.maxLimit then some (new limit) else none := by
  unfold new? History.new?
  split <;> rfl

/-- A port after reset that keeps as many writes as is usual. -/
def standard : IoPort := new defaultHistoryLimit.toNat

/-- The bits of `levels` at the pins that are outputs, and those of `driven` at the others. -/
def mix (ddr levels driven : UInt8) : UInt8 :=
  (levels &&& ddr) ||| (~~~ddr &&& driven)

/-- The value of a register. -/
def get (p : IoPort) : PortRegister → UInt8
  | .direction => p.ddr
  | .data => p.dr

/-- Gives the output pins their levels. -/
def settle (p : IoPort) (level : UInt8) : IoPort :=
  { p with output := level, outputs := p.outputs.push level }

/-- Writes to a register. -/
def set (p : IoPort) (w : PortWrite) : IoPort :=
  match w.register with
  | .direction =>
    let dr := mix w.value p.dr p.input
    { p with ddr := w.value, dr }.settle (dr &&& w.value)
  | .data =>
    { p with
      dataWrites := p.dataWrites.push w.value
      dr := mix p.ddr w.value p.input }.settle (w.value &&& p.ddr)

/-- Drives all pins from outside. Only inputs feel it. -/
def drive (p : IoPort) (levels : UInt8) : IoPort :=
  { p with input := levels, dr := mix p.ddr p.dr levels }

/-- Reads at an offset. -/
def read (p : IoPort) (offset : UInt64) : Except Fault UInt8 :=
  match PortRegister.ofOffset? offset with
  | some r => .ok (p.get r)
  | none => .error (.memoryViolation offset)

/-- Writes at an offset. -/
def write (p : IoPort) (offset : UInt64) (value : UInt8) : Except Fault IoPort :=
  match PortRegister.ofOffset? offset with
  | some r => .ok (p.set ⟨r, value⟩)
  | none => .error (.memoryViolation offset)

/-- What is told about a step from one state of a port to another: whether the output changed. -/
def changes (before after : IoPort) : List Message :=
  if before.output = after.output then [] else [.outputChanged before.output after.output]

/-- What is told about a write. -/
def setMessages (p : IoPort) (w : PortWrite) : List Message :=
  p.changes (p.set w)

/-- What is told about a write at an offset. -/
def writeMessages (p : IoPort) (offset : UInt64) (value : UInt8) : List Message :=
  match p.write offset value with
  | .ok after => p.changes after
  | .error _ => []

end IoPort

end BlinkBench

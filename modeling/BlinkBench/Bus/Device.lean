import BlinkBench.IoPort
/-!
# Devices

What can stand behind the two registers of a port on a bus. Besides I/O ports there are devices of
other makes, which may refuse to be read or written. One of them is a latch, which remembers a byte for
each register.
-/
namespace BlinkBench

/-- A device of another make. All that is known of it is how it answers behind the writes that it has
taken. A write that it refuses leaves it as it is. -/
structure Foreign where
  /-- What is read from a register behind some writes, newest first. -/
  readBehind : List PortWrite → PortRegister → Except Fault UInt8
  /-- Why a write is refused behind some others, newest first, if it is. -/
  refusal? : List PortWrite → PortWrite → Option Fault
  /-- The writes taken so far, newest first. -/
  taken : List PortWrite := []

namespace Foreign

/-- Reads a register. -/
def read (f : Foreign) (r : PortRegister) : Except Fault UInt8 :=
  f.readBehind f.taken r

/-- Writes to a register. -/
def write (f : Foreign) (w : PortWrite) : Except Fault Foreign :=
  match f.refusal? f.taken w with
  | some fault => .error fault
  | none => .ok { f with taken := w :: f.taken }

section States

variable {σ : Type} (read : σ → PortRegister → Except Fault UInt8)
  (write : σ → PortWrite → Except Fault σ) (start : σ)

/-- The state behind some writes, newest first. -/
def stateBehind : List PortWrite → σ
  | [] => start
  | w :: writes => (write (stateBehind writes) w).toOption.getD (stateBehind writes)

/-- The device that goes from one state to another with each write that it takes. -/
def ofStates : Foreign where
  readBehind writes := read (stateBehind write start writes)
  refusal? writes w :=
    match write (stateBehind write start writes) w with
    | .ok _ => none
    | .error fault => some fault

end States

end Foreign

/-- Two bytes that are as they were written. -/
structure Latch where
  direction : UInt8 := 0
  data : UInt8 := 0
deriving DecidableEq, Repr

namespace Latch

/-- The value of a register. -/
def get (l : Latch) : PortRegister → UInt8
  | .direction => l.direction
  | .data => l.data

/-- Writes to a register. -/
def set (l : Latch) (w : PortWrite) : Latch :=
  match w.register with
  | .direction => { l with direction := w.value }
  | .data => { l with data := w.value }

end Latch

/-- A latch as a device. It may refuse all writes. -/
def Foreign.latch (readOnly : Bool) : Foreign :=
  ofStates (fun l r => .ok (l.get r))
    (fun l w => if readOnly then .error (.memoryViolation w.register.offset) else .ok (l.set w))
    ({} : Latch)

/-- What stands behind a port on a bus. -/
inductive Device where
  | io (port : IoPort)
  | foreign (device : Foreign)

namespace Device

/-- Reads a register. -/
def read : Device → PortRegister → Except Fault UInt8
  | io p, r => .ok (p.get r)
  | foreign f, r => f.read r

/-- Writes to a register. -/
def write : Device → PortWrite → Except Fault Device
  | io p, w => .ok (io (p.set w))
  | foreign f, w => (f.write w).map foreign

/-- What is told about a write. -/
def writeMessages : Device → PortWrite → List Message
  | io p, w => p.setMessages w
  | foreign _, _ => []

/-- The I/O port, if the device is one. -/
def ioPort? : Device → Option IoPort
  | io p => some p
  | foreign _ => none

end Device

end BlinkBench

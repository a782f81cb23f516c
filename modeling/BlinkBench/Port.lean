import BlinkBench.Bus.Basic
/-!
# Ports to write to

A port is written to through its two registers, and a write cannot fail: that nothing answers at
the address of a register is found out when a port of a bus is attached, and a device that refuses
a write is a fault that goes to the log only.
-/
namespace BlinkBench

/-- A port that remembers all writes, newest first. -/
structure Recording where
  directions : List UInt8 := []
  data : List UInt8 := []
deriving DecidableEq, Repr

namespace Recording

/-- Writes to a register. -/
def write (r : Recording) (w : PortWrite) : Recording :=
  match w.register with
  | .direction => { r with directions := w.value :: r.directions }
  | .data => { r with data := w.value :: r.data }

end Recording

/-- A port whose registers are at two addresses of a bus. -/
structure BusPort where
  bus : Bus
  ddrAddress : UInt64
  drAddress : UInt64

namespace BusPort

/-- Attaches a port at two addresses, which have to be readable. -/
def attachAt (bus : Bus) (ddrAddress drAddress : UInt64) : Except Fault BusPort := do
  let _ ← bus.read ddrAddress
  let _ ← bus.read drAddress
  return ⟨bus, ddrAddress, drAddress⟩

/-- Attaches the first port with a name. -/
def attach (bus : Bus) (name : String) : Except Fault BusPort :=
  match bus.portEntry? name with
  | some p => attachAt bus p.ddrAddress p.drAddress
  | none => .error (.unmappedPort name)

/-- The address of a register. -/
def address (p : BusPort) : PortRegister → UInt64
  | .direction => p.ddrAddress
  | .data => p.drAddress

/-- Writes to a register. Where that fails, the bus stays as it is. -/
def write (p : BusPort) (w : PortWrite) : BusPort :=
  match p.bus.write (p.address w.register) w.value with
  | .ok bus => { p with bus }
  | .error _ => p

/-- What is told about a write. -/
def writeMessages (p : BusPort) (w : PortWrite) : List Message :=
  let address := p.address w.register
  p.bus.writeMessages address w.value ++
    match p.bus.write address w.value with
    | .ok _ => []
    | .error fault => [.busFault w.value address fault]

end BusPort

/-- A port to write to. -/
inductive Port where
  | recording (r : Recording)
  /-- Two bytes of memory. -/
  | memory (l : Latch)
  | bus (p : BusPort)

namespace Port

/-- Writes to a register. -/
def write : Port → PortWrite → Port
  | recording r, w => recording (r.write w)
  | memory l, w => memory (l.set w)
  | bus p, w => bus (p.write w)

/-- What is told about a write. -/
def writeMessages : Port → PortWrite → List Message
  | bus p, w => p.writeMessages w
  | _, _ => []

end Port

end BlinkBench

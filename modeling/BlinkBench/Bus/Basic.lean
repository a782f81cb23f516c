import BlinkBench.Bus.Device
import BlinkBench.RegisterFile
/-!
# Buses

A bus takes accesses to byte addresses to the ports and the plain registers that are mapped on it.
The two registers of a port have addresses of their own. Where a plain register has the address of
a port too, the port answers.
-/
namespace BlinkBench

/-- A port on a bus. -/
structure PortEntry where
  name : String
  ddrAddress : UInt64
  drAddress : UInt64
  device : Device

namespace PortEntry

/-- The register that an address stands for. -/
def register? (p : PortEntry) (address : UInt64) : Option PortRegister :=
  if address = p.ddrAddress then some .direction
  else if address = p.drAddress then some .data
  else none

/-- The address of a register. -/
def address (p : PortEntry) : PortRegister → UInt64
  | .direction => p.ddrAddress
  | .data => p.drAddress

end PortEntry

/-- Ports, in the order in which they were mapped, and plain registers. -/
structure Bus where
  ports : List PortEntry
  registers : RegisterFile

namespace Bus

/-- A bus with nothing on it. -/
def empty : Bus := ⟨[], .empty⟩

/-- A bus with port B of the H8/3067. -/
def h8_3067 : Bus :=
  { empty with
    ports := [⟨"port_b", Board.h8PortBDirection, Board.h8PortBData, .io .standard⟩] }

/-- Whether something answers at an address. -/
def isMapped (bus : Bus) (address : UInt64) : Bool :=
  bus.registers.isMapped address || bus.ports.any (·.register? address |>.isSome)

/-- The first port that answers at an address, and with which register. -/
def portAt? (bus : Bus) (address : UInt64) : Option (PortEntry × PortRegister) :=
  bus.ports.findSome? fun p => (p.register? address).map (p, ·)

/-- Reads a byte. -/
def read (bus : Bus) (address : UInt64) : Except Fault UInt8 :=
  match bus.portAt? address with
  | some (p, r) => p.device.read r
  | none =>
    match bus.registers.read? address with
    | some value => .ok value
    | none => .error (.memoryViolation address)

/-- Writes a byte to the first port that answers at an address, if there is one. -/
def writePorts (address : UInt64) (value : UInt8) :
    List PortEntry → Option (Except Fault (List PortEntry))
  | [] => none
  | p :: ports =>
    match p.register? address with
    | some r => some ((p.device.write ⟨r, value⟩).map fun device => { p with device } :: ports)
    | none => (writePorts address value ports).map (·.map (p :: ·))

/-- Writes a byte. -/
def write (bus : Bus) (address : UInt64) (value : UInt8) : Except Fault Bus :=
  match writePorts address value bus.ports with
  | some (.ok ports) => .ok { bus with ports }
  | some (.error fault) => .error fault
  | none =>
    match bus.registers.write? address value with
    | some registers => .ok { bus with registers }
    | none => .error (.memoryViolation address)

/-- What is told about a write. -/
def writeMessages (bus : Bus) (address : UInt64) (value : UInt8) : List Message :=
  match bus.portAt? address with
  | some (p, r) => .portWritten p.name address value :: p.device.writeMessages ⟨r, value⟩
  | none => []

/-- Maps a plain register, whatever has the address already. -/
def mapRegister (bus : Bus) (address : UInt64) (name : String) (reset : UInt8) : Bus :=
  { bus with registers := bus.registers.map address name reset }

/-- Maps a port at two addresses that are free and differ. -/
def addPort (bus : Bus) (p : PortEntry) : Except Fault Bus :=
  if bus.isMapped p.ddrAddress then .error (.addressConflict p.ddrAddress)
  else if bus.isMapped p.drAddress then .error (.addressConflict p.drAddress)
  else if p.ddrAddress = p.drAddress then .error (.addressConflict p.ddrAddress)
  else .ok { bus with ports := bus.ports ++ [p] }

/-- Takes all ports with a name away. -/
def removePort (bus : Bus) (name : String) : Bus :=
  { bus with ports := bus.ports.filter (·.name != name) }

/-- The first port with a name. -/
def portEntry? (bus : Bus) (name : String) : Option PortEntry :=
  bus.ports.find? (·.name == name)

/-- The first port with a name, if it is an I/O port. -/
def ioPort? (bus : Bus) (name : String) : Option IoPort := do
  (← bus.portEntry? name).device.ioPort?

/-- Drives the pins of the first of some ports with a name, if it is an I/O port. -/
def drivePorts (name : String) (levels : UInt8) : List PortEntry → Option (List PortEntry)
  | [] => none
  | p :: ports =>
    if p.name == name then
      match p.device with
      | .io port => some ({ p with device := .io (port.drive levels) } :: ports)
      | .foreign _ => none
    else (drivePorts name levels ports).map (p :: ·)

/-- Drives the pins of the first port with a name, if it is an I/O port. -/
def drive? (bus : Bus) (name : String) (levels : UInt8) : Option Bus :=
  (drivePorts name levels bus.ports).map fun ports => { bus with ports }

end Bus

end BlinkBench

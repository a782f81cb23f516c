import BlinkBench.Bus.Basic
/-!
# Buses for boards

A bus is built from a board port by port, then register by register. The first address that is
taken already stops it. Each port is made before its addresses are looked at, and where there can be no
room for its histories the program ends.
-/
namespace BlinkBench

/-- The part of a board that cannot be mapped. -/
inductive MapFault where
  | port (id : String) (fault : Fault)
  | register (name : String) (address : UInt64)
deriving DecidableEq, Repr

namespace MapFault

/-- What is said about the part. -/
def message : MapFault → String
  | port id _ => s!"Failed to map port '{id}'"
  | register name address =>
    s!"Failed to map register '{name}': {(Fault.addressConflict address).message}"

/-- The fault behind it, where it is told apart. -/
def cause? : MapFault → Option Fault
  | port _ fault => some fault
  | register .. => none

end MapFault

/-- A port of a board after reset. -/
def PortEntry.ofSpec (limit : Nat) (p : PortSpec) : PortEntry :=
  ⟨p.id, p.ddrAddress, p.drAddress, .io (.new limit)⟩

namespace Bus

/-- Maps a port of a board. -/
def addPortSpec (limit : Nat) (bus : Bus) (p : PortSpec) : Except (Failure MapFault) Bus :=
  match IoPort.new? limit with
  | some port =>
    (bus.addPort ⟨p.id, p.ddrAddress, p.drAddress, .io port⟩).mapError fun fault =>
      .fault (.port p.id fault)
  | none => .error .abort

/-- Maps a register of a board, at an address that is free. -/
def addRegisterSpec (bus : Bus) (r : RegisterSpec) : Except (Failure MapFault) Bus :=
  if bus.isMapped r.address then .error (.fault (.register r.name r.address))
  else .ok (bus.mapRegister r.address r.name r.reset)

/-- A bus with what a board declares. -/
def ofBoard (b : Board) : Except (Failure MapFault) Bus := do
  let bus ← b.ports.foldlM (addPortSpec b.historyLimit.toNat) empty
  b.registers.foldlM addRegisterSpec bus

end Bus

/-- What is told while a bus is built from a board. -/
def Board.messages (b : Board) : List Message :=
  b.ports.map fun p => .portMapped p.id p.ddrAddress p.drAddress

end BlinkBench

import BlinkBench.AscendingMap
/-!
# Plain registers

A sparse memory of bytes: only addresses that were mapped hold one. Each has a name.
-/
namespace BlinkBench

/-- A register of a byte. -/
structure Register where
  name : String
  value : UInt8
deriving DecidableEq, Repr

/-- Registers by their addresses. -/
structure RegisterFile where
  cells : AscendingMap UInt64 Register
deriving DecidableEq, Repr

namespace RegisterFile

/-- No registers. -/
def empty : RegisterFile := ⟨.empty⟩

/-- Maps a register, in place of one that has the address already. -/
def map (f : RegisterFile) (address : UInt64) (name : String) (reset : UInt8) : RegisterFile :=
  ⟨f.cells.insert address ⟨name, reset⟩⟩

/-- Whether there is a register at an address. -/
def isMapped (f : RegisterFile) (address : UInt64) : Bool :=
  f.cells.contains address

/-- The value of the register at an address. -/
def read? (f : RegisterFile) (address : UInt64) : Option UInt8 :=
  (f.cells.find? address).map (·.value)

/-- Writes to the register at an address, if there is one. -/
def write? (f : RegisterFile) (address : UInt64) (value : UInt8) : Option RegisterFile :=
  if f.isMapped address then
    some ⟨f.cells.mapValues fun a r => if a == address then { r with value } else r⟩
  else none

/-- The registers with their addresses, which ascend. -/
def toList (f : RegisterFile) : List (UInt64 × Register) :=
  f.cells.entries

end RegisterFile

end BlinkBench

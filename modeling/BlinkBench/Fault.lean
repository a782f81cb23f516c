import BlinkBench.Text.Hex
/-!
# Faults of memory accesses and of the address map

A fault is handed on to whoever asked. Where there is no room for what is to be made, nothing is handed
on: the whole program ends.
-/
namespace BlinkBench

/-- What can go wrong between an address and what is mapped there. -/
inductive Fault where
  /-- Nothing answers at this address, or what is there refuses the access. -/
  | memoryViolation (address : UInt64)
  /-- No port has this name. -/
  | unmappedPort (name : String)
  /-- The address is taken. -/
  | addressConflict (address : UInt64)
deriving DecidableEq, Repr

/-- How something can come to nothing. -/
inductive Failure (ε : Type) where
  /-- A fault is handed on. -/
  | fault (e : ε)
  /-- The program ends there. -/
  | abort
deriving DecidableEq, Repr

/-- The failure with another fault. -/
def Failure.map {ε ε' : Type} (f : ε → ε') : Failure ε → Failure ε'
  | fault e => fault (f e)
  | abort => abort

/-- What is said about a fault. -/
def Fault.message : Fault → String
  | memoryViolation address => s!"Memory access violation at {Hex.ofAddress address}"
  | unmappedPort name => s!"Port '{name}' is not mapped on the bus"
  | addressConflict address => s!"Address {Hex.ofAddress address} is already mapped"

end BlinkBench

import BlinkBench.Text.Hex
/-!
# Sets of pins

A port has eight pins. A set of them is a byte with one bit for each pin.
-/
namespace BlinkBench

/-- A set of pins of one port. -/
structure Pins where
  bits : UInt8
deriving DecidableEq, Repr

namespace Pins

/-- No pin. -/
def none : Pins := ⟨0⟩

/-- Every pin. -/
def all : Pins := ⟨0xFF⟩

/-- The pin with number `k` alone, where `k < 8`. -/
def pin (k : Nat) : Pins := ⟨1 <<< UInt8.ofNat k⟩

/-- The pins that are in both sets. -/
def inter (a b : Pins) : Pins := ⟨a.bits &&& b.bits⟩

/-- The pins that are in one of the sets at least. -/
def union (a b : Pins) : Pins := ⟨a.bits ||| b.bits⟩

/-- The pins that are in one of the sets only. -/
def symmDiff (a b : Pins) : Pins := ⟨a.bits ^^^ b.bits⟩

/-- The other pins of the port. -/
def complement (a : Pins) : Pins := ⟨~~~a.bits⟩

/-- The pins that are in the first set and not in the second. -/
def diff (a b : Pins) : Pins := a.inter b.complement

/-- Whether there is no pin in a set. -/
def isNone (a : Pins) : Bool := a == none

/-- Whether every pin is in a set. -/
def isAll (a : Pins) : Bool := a == all

/-- Whether the first set holds all of the second. -/
def contains (a b : Pins) : Bool := a.inter b == b

/-- Whether the sets have a pin in common. -/
def intersects (a b : Pins) : Bool := !(a.inter b).isNone

/-- The numbers of the pins in a set, smallest first. -/
def numbers (a : Pins) : List Nat := (List.range 8).filter fun k => a.contains (pin k)

/-- The names of the pins in a set. -/
def names (a : Pins) : List String := a.numbers.map fun k => s!"PIN{k}"

/-- A set as it is shown to someone who looks for a fault. -/
def describe (a : Pins) : String :=
  "Pins(" ++ (if a.isNone then Hex.ofNat 0 else " | ".intercalate a.names) ++ ")"

/-- Every pin but the first. -/
def allButFirst : Pins := all.diff (pin 0)

end Pins

end BlinkBench

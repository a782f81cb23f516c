/-!
# The two registers of a port

Whatever stands behind a port, it is used through a direction register and a data register.
-/
namespace BlinkBench

/-- A register of a port. -/
inductive PortRegister where
  /-- Says which pins are outputs. -/
  | direction
  /-- Holds the levels of the pins. -/
  | data
deriving DecidableEq, Repr

namespace PortRegister

/-- Where a register is in the block of a port. -/
def offset : PortRegister → UInt64
  | direction => 0
  | data => 1

/-- The register at this place. -/
def ofOffset? (offset : UInt64) : Option PortRegister :=
  if offset = direction.offset then some direction
  else if offset = data.offset then some data
  else none

theorem ofOffset?_offset (r : PortRegister) : ofOffset? r.offset = some r := by
  cases r <;> rfl

theorem ofOffset?_eq_some {offset : UInt64} {r : PortRegister} (h : ofOffset? offset = some r) :
    offset = r.offset := by
  unfold ofOffset? at h
  split at h
  · cases h; assumption
  · split at h
    · cases h; assumption
    · cases h

end PortRegister

/-- A write to a register of a port. -/
structure PortWrite where
  register : PortRegister
  value : UInt8
deriving DecidableEq, Repr

end BlinkBench

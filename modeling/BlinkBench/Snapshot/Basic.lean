import BlinkBench.AscendingMap
import BlinkBench.Bus.Basic
import BlinkBench.Report
/-!
# Snapshots

A snapshot holds the report of a run and what a bus looks like: its I/O ports and its plain
registers, each under its name. Of several with one name only the last is shown.
-/
namespace BlinkBench

/-- What a port looks like. -/
structure PortSnapshot where
  ddrAddress : UInt64
  drAddress : UInt64
  ddr : UInt8
  dr : UInt8
  output : UInt8
  /-- The most recent writes to the data register, oldest first. -/
  writes : List UInt8
  /-- The number of all writes to the data register. -/
  writeCount : UInt64
deriving DecidableEq, Repr

/-- What a register looks like. -/
structure RegisterSnapshot where
  address : UInt64
  value : UInt8
deriving DecidableEq, Repr

/-- The report of a run, and what a bus looks like. -/
structure Snapshot where
  report : Report
  ports : AscendingMap String PortSnapshot
  registers : AscendingMap String RegisterSnapshot
deriving DecidableEq, Repr

namespace Snapshot

/-- What a port on a bus looks like. The device is the one that the name of the port leads to. -/
def capturePort? (bus : Bus) (p : PortEntry) : Option (String × PortSnapshot) :=
  (bus.ioPort? p.name).map fun port =>
    (p.name, {
      ddrAddress := p.ddrAddress
      drAddress := p.drAddress
      ddr := port.ddr
      dr := port.dr
      output := port.output
      writes := port.dataWrites.recent
      writeCount := port.dataWrites.total })

/-- What a bus looks like after a run. -/
def capture (report : Report) (bus : Bus) : Snapshot where
  report
  ports := .ofList (bus.ports.filterMap (capturePort? bus))
  registers := .ofList (bus.registers.toList.map fun (address, r) => (r.name, ⟨address, r.value⟩))

end Snapshot

end BlinkBench

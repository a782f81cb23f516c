import BlinkBench.Json.Decode
import BlinkBench.Json.Printer
import BlinkBench.Json.Reader
import BlinkBench.Snapshot.Basic
/-!
# Snapshots as JSON

A snapshot is written with all its fields, and the ports and registers in the order of their
names. What is read may hold other members too; of two members of a map with one name the later
counts.
-/
namespace BlinkBench

open Json

def Report.toJson (r : Report) : Json :=
  .obj [("toggles", ofUInt64 r.toggles), ("last_state", ofOption (.str ·.name) r.lastState),
    ("stop_reason", .str r.stopReason.name), ("delay_iterations", ofUInt64 r.delayIterations)]

def Report.ofJson? : Decoder Report := fun v => do
  let f ← fields? ["toggles", "last_state", "stop_reason", "delay_iterations"] .ignored v
  return {
    toggles := ← field? f "toggles" uint64?
    lastState := ← fieldOr? f "last_state" (optional? (named? PinState.ofName?)) none
    stopReason := ← field? f "stop_reason" (named? StopReason.ofName?)
    delayIterations := ← field? f "delay_iterations" uint64? }

def PortSnapshot.toJson (p : PortSnapshot) : Json :=
  .obj [("ddr_address", ofUInt64 p.ddrAddress), ("dr_address", ofUInt64 p.drAddress),
    ("ddr", ofUInt8 p.ddr), ("dr", ofUInt8 p.dr), ("output", ofUInt8 p.output),
    ("dr_writes", ofList ofUInt8 p.writes), ("dr_write_count", ofUInt64 p.writeCount)]

def PortSnapshot.ofJson? : Decoder PortSnapshot := fun v => do
  let f ← fields? ["ddr_address", "dr_address", "ddr", "dr", "output", "dr_writes",
    "dr_write_count"] .ignored v
  return {
    ddrAddress := ← field? f "ddr_address" uint64?
    drAddress := ← field? f "dr_address" uint64?
    ddr := ← field? f "ddr" uint8?
    dr := ← field? f "dr" uint8?
    output := ← field? f "output" uint8?
    writes := ← field? f "dr_writes" (list? uint8?)
    writeCount := ← field? f "dr_write_count" uint64? }

def RegisterSnapshot.toJson (r : RegisterSnapshot) : Json :=
  .obj [("address", ofUInt64 r.address), ("value", ofUInt8 r.value)]

def RegisterSnapshot.ofJson? : Decoder RegisterSnapshot := fun v => do
  let f ← fields? ["address", "value"] .ignored v
  return {
    address := ← field? f "address" uint64?
    value := ← field? f "value" uint8? }

/-- A map from names, as an object. -/
def Json.ofNames {α : Type} (f : α → Json) (m : AscendingMap String α) : Json :=
  .obj (m.entries.map fun (name, a) => (name, f a))

/-- A map from names. -/
def Json.names? {α : Type} (read? : Decoder α) : Decoder (AscendingMap String α)
  | .obj members => do return .ofList (← members.mapM fun (name, v) => return (name, ← read? v))
  | _ => none

namespace Snapshot

def toJson (s : Snapshot) : Json :=
  .obj [("report", s.report.toJson), ("ports", ofNames PortSnapshot.toJson s.ports),
    ("registers", ofNames RegisterSnapshot.toJson s.registers)]

def ofJson? : Decoder Snapshot := fun v => do
  let f ← fields? ["report", "ports", "registers"] .ignored v
  return {
    report := ← field? f "report" Report.ofJson?
    ports := ← field? f "ports" (names? PortSnapshot.ofJson?)
    registers := ← field? f "registers" (names? RegisterSnapshot.ofJson?) }

/-- The text of a snapshot. -/
def text (s : Snapshot) : String :=
  s.toJson.pretty

/-- The snapshot that a text spells. -/
def ofText? (text : String) : Option Snapshot := do
  ofJson? (← Json.parse? text)

end Snapshot

end BlinkBench

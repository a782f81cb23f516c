import BlinkBench.Json.Decode
import BlinkBench.Manifest.Fields
/-!
# Manifests as JSON

A manifest is written with all its fields. What is read may leave out fields that have a default,
but may hold nothing else.
-/
namespace BlinkBench

open Json

/-! ## Writing -/

def PortSpec.toJson (p : PortSpec) : Json :=
  .obj [("id", .str p.id), ("ddr_address", ofUInt64 p.ddrAddress),
    ("dr_address", ofUInt64 p.drAddress)]

def RegisterSpec.toJson (r : RegisterSpec) : Json :=
  .obj [("name", .str r.name), ("address", ofUInt64 r.address), ("reset", ofUInt8 r.reset)]

def Board.toJson (b : Board) : Json :=
  .obj [("name", .str b.name), ("ports", .ofList PortSpec.toJson b.ports),
    ("registers", .ofList RegisterSpec.toJson b.registers), ("driver_port", .str b.driverPort),
    ("history_limit", ofUInt64 b.historyLimit)]

def DelayStrategy.toJson (s : DelayStrategy) : Json :=
  .str s.name

def DelaySettings.toJson (d : DelaySettings) : Json :=
  .obj [("strategy", d.strategy.toJson), ("iteration_ns", ofUInt64 d.iterationNs)]

def Limits.toJson (l : Limits) : Json :=
  .obj [("max_toggles", ofOption ofUInt64 l.maxToggles),
    ("wall_time_ms", ofOption ofUInt64 l.wallTimeMs)]

/-- A manifest with all its fields. -/
def Manifest.toJson (m : Manifest) : Json :=
  .obj [("schema_version", .str m.schemaVersion), ("board", m.board.toJson),
    ("delay", m.delay.toJson), ("limits", m.limits.toJson)]

/-! ## Reading -/

def DelayStrategy.ofJson? : Decoder DelayStrategy :=
  named? DelayStrategy.ofName?

/-- How the values of a manifest are read from JSON. -/
def Json.format : Format Json where
  text? := text?
  uint64? := uint64?
  uint8? := uint8?
  limit? := optional? uint64?
  strategy? := DelayStrategy.ofJson?
  list? := list?
  fields? known := fields? known .refused

def PortSpec.ofJson? : Decoder PortSpec :=
  format.port?

def RegisterSpec.ofJson? : Decoder RegisterSpec :=
  format.register?

def Board.ofJson? : Decoder Board :=
  format.board?

def DelaySettings.ofJson? : Decoder DelaySettings :=
  format.delay?

def Limits.ofJson? : Decoder Limits :=
  format.limits?

/-- The manifest that a value stands for, before any check. -/
def Manifest.ofJson? : Decoder Manifest :=
  format.manifest?

end BlinkBench

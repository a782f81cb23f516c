import BlinkBench.Fields
import BlinkBench.Manifest.Basic
/-!
# The fields of a manifest

What the fields of a manifest are called, and what those are that may be left out, is the same however
it is written. A format says how their values are read.
-/
namespace BlinkBench

/-- How the values of a manifest are read that is written with such nodes. -/
structure Format (ν : Type) where
  text? : ν → Option String
  uint64? : ν → Option UInt64
  uint8? : ν → Option UInt8
  /-- A number that may be null. -/
  limit? : ν → Option (Option UInt64)
  strategy? : ν → Option DelayStrategy
  list? {α : Type} (item? : ν → Option α) : ν → Option (List α)
  /-- The fields of a record, which are all among the known ones, and each there once at most. -/
  fields? (known : List String) : ν → Option (List (String × ν))

namespace Format

variable {ν : Type} (f : Format ν)

def port? (v : ν) : Option PortSpec := do
  let fields ← f.fields? ["id", "ddr_address", "dr_address"] v
  return {
    id := ← field? fields "id" f.text?
    ddrAddress := ← field? fields "ddr_address" f.uint64?
    drAddress := ← field? fields "dr_address" f.uint64? }

def register? (v : ν) : Option RegisterSpec := do
  let fields ← f.fields? ["name", "address", "reset"] v
  return {
    name := ← field? fields "name" f.text?
    address := ← field? fields "address" f.uint64?
    reset := ← fieldOr? fields "reset" f.uint8? 0 }

def board? (v : ν) : Option Board := do
  let fields ← f.fields? ["name", "ports", "registers", "driver_port", "history_limit"] v
  return {
    name := ← field? fields "name" f.text?
    ports := ← field? fields "ports" (f.list? f.port?)
    registers := ← fieldOr? fields "registers" (f.list? f.register?) []
    driverPort := ← field? fields "driver_port" f.text?
    historyLimit := ← fieldOr? fields "history_limit" f.uint64? defaultHistoryLimit }

def delay? (v : ν) : Option DelaySettings := do
  let fields ← f.fields? ["strategy", "iteration_ns"] v
  let standard : DelaySettings := {}
  return {
    strategy := ← fieldOr? fields "strategy" f.strategy? standard.strategy
    iterationNs := ← fieldOr? fields "iteration_ns" f.uint64? standard.iterationNs }

def limits? (v : ν) : Option Limits := do
  let fields ← f.fields? ["max_toggles", "wall_time_ms"] v
  return {
    maxToggles := ← fieldOr? fields "max_toggles" f.limit? none
    wallTimeMs := ← fieldOr? fields "wall_time_ms" f.limit? none }

def manifest? (v : ν) : Option Manifest := do
  let fields ← f.fields? ["schema_version", "board", "delay", "limits"] v
  return {
    schemaVersion := ← field? fields "schema_version" f.text?
    board := ← field? fields "board" f.board?
    delay := ← fieldOr? fields "delay" f.delay? {}
    limits := ← fieldOr? fields "limits" f.limits? {} }

end Format

end BlinkBench

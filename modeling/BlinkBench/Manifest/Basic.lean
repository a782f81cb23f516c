/-!
# Manifests

A manifest describes a board and a run on it: the ports and registers of the board, which port
is driven, how the delay between two toggles is spent, and when the run stops.
-/
namespace BlinkBench

/-- A port of a board: its direction register and its data register have addresses of their own. -/
structure PortSpec where
  id : String
  ddrAddress : UInt64
  drAddress : UInt64
deriving DecidableEq, Repr

/-- A register of a byte with nothing behind it. -/
structure RegisterSpec where
  name : String
  address : UInt64
  reset : UInt8
deriving DecidableEq, Repr

/-- The most recent writes that are kept for a port, where a board does not say. -/
def defaultHistoryLimit : UInt64 := 64

/-- A board. -/
structure Board where
  name : String
  ports : List PortSpec
  registers : List RegisterSpec
  /-- The port that is driven. -/
  driverPort : String
  /-- How many of the most recent writes are kept for each port. -/
  historyLimit : UInt64
deriving DecidableEq, Repr

namespace Board

/-- The direction register of port B on the H8/3067. -/
def h8PortBDirection : UInt64 := 0xFEE00A

/-- The data register of port B on the H8/3067. -/
def h8PortBData : UInt64 := 0xFFFFDA

/-- An H8/3067 with its port B. -/
def h8_3067 : Board where
  name := "h8-3067"
  ports := [⟨"port_b", h8PortBDirection, h8PortBData⟩]
  registers := []
  driverPort := "port_b"
  historyLimit := defaultHistoryLimit

/-- The first port with the name of the driven one. -/
def drivenPort? (b : Board) : Option PortSpec :=
  b.ports.find? (·.id == b.driverPort)

/-- The addresses of the ports, in the order in which they are declared. -/
def portAddresses (b : Board) : List UInt64 :=
  b.ports.flatMap fun p => [p.ddrAddress, p.drAddress]

end Board

/-- How the time between two toggles is spent. -/
inductive DelayStrategy where
  /-- An empty counting loop. -/
  | busy
  /-- Sleep for as long as the loop would take. -/
  | sleep
  /-- Not at all. -/
  | none
deriving DecidableEq, Repr

/-- The delay of a run. -/
structure DelaySettings where
  strategy : DelayStrategy := .none
  /-- The time of one round of the counting loop, for those that sleep instead. -/
  iterationNs : UInt64 := 66
deriving DecidableEq, Repr

/-- When a run stops. -/
structure Limits where
  maxToggles : Option UInt64 := none
  wallTimeMs : Option UInt64 := none
deriving DecidableEq, Repr

/-- The only version of manifests there is. -/
def schemaVersion : String := "1.0"

/-- A board and a run on it. -/
structure Manifest where
  schemaVersion : String
  board : Board
  delay : DelaySettings
  limits : Limits
deriving DecidableEq, Repr

/-- Five toggles on an H8/3067. -/
def Manifest.standard : Manifest where
  schemaVersion := BlinkBench.schemaVersion
  board := .h8_3067
  delay := {}
  limits := { maxToggles := some 5 }

namespace DelayStrategy

/-- The name of a strategy. -/
def name : DelayStrategy → String
  | busy => "busy"
  | sleep => "sleep"
  | none => "none"

/-- The strategy with exactly this name. -/
def ofName? : String → Option DelayStrategy
  | "busy" => some busy
  | "sleep" => some sleep
  | "none" => some none
  | _ => Option.none

/-- No strategy has this name, which is given with its ASCII letters lowered. -/
structure UnknownName where
  lowered : String
deriving DecidableEq, Repr

/-- What is said about an unknown name. -/
def UnknownName.message (u : UnknownName) : String :=
  s!"Unknown delay strategy '{u.lowered}' (expected busy, sleep or none)"

/-- The strategy with this name in letters of either case; only ASCII letters have a case here. -/
def parse (text : String) : Except UnknownName DelayStrategy :=
  let lowered := text.map Char.toLower
  match ofName? lowered with
  | some s => .ok s
  | Option.none => .error ⟨lowered⟩

end DelayStrategy

end BlinkBench

import BlinkBench.Manifest.Basic
import BlinkBench.Text.Hex
/-!
# Checks on a manifest

The checks have an order, and the first one that fails is the one reported: the version, that
there are ports, the ports one by one, the registers one by one, the history, the driven port and
the limits.
-/
namespace BlinkBench

/-- What is wrong with a manifest. -/
inductive ManifestFault where
  | unsupportedSchema (version : String)
  | noPorts (board : String)
  | duplicatePort (id : String)
  | duplicateAddress (address : UInt64)
  | overlappingRegisters (id : String)
  | unknownDriverPort (id : String)
  | unbounded
  | zeroToggles
  | zeroHistory
deriving DecidableEq, Repr

/-- What is said about a fault. -/
def ManifestFault.message : ManifestFault → String
  | .unsupportedSchema version =>
    s!"Unsupported schema_version '{version}'. Supported versions: '1.0'"
  | .noPorts board => s!"Board '{board}' declares no ports"
  | .duplicatePort id => s!"Port id '{id}' is declared more than once"
  | .duplicateAddress address =>
    s!"Register address {Hex.ofAddress address} is mapped more than once"
  | .overlappingRegisters id => s!"Port '{id}' uses the same address for DDR and DR"
  | .unknownDriverPort id => s!"driver_port '{id}' does not name a declared port"
  | .unbounded => "Limits must set max_toggles or wall_time_ms, otherwise the run never stops"
  | .zeroToggles => "Limit 'max_toggles' must be greater than zero"
  | .zeroHistory => "Board 'history_limit' must be greater than zero"

/-- Checks ports against the identifiers and the addresses of those before them. The answer is
all addresses used in the end. -/
def checkPorts (ids : List String) (used : List UInt64) :
    List PortSpec → Except ManifestFault (List UInt64)
  | [] => .ok used
  | p :: ports =>
    if p.id ∈ ids then .error (.duplicatePort p.id)
    else if p.ddrAddress = p.drAddress then .error (.overlappingRegisters p.id)
    else if p.ddrAddress ∈ used then .error (.duplicateAddress p.ddrAddress)
    else if p.drAddress ∈ used then .error (.duplicateAddress p.drAddress)
    else checkPorts (p.id :: ids) (p.drAddress :: p.ddrAddress :: used) ports

/-- Checks registers against the addresses used before them. -/
def checkRegisters (used : List UInt64) : List RegisterSpec → Except ManifestFault Unit
  | [] => .ok ()
  | r :: registers =>
    if r.address ∈ used then .error (.duplicateAddress r.address)
    else checkRegisters (r.address :: used) registers

/-- Checks that a run with these limits stops, and toggles at all. -/
def Limits.check (l : Limits) : Except ManifestFault Unit :=
  match l.maxToggles, l.wallTimeMs with
  | none, none => .error .unbounded
  | some n, _ => if n = 0 then .error .zeroToggles else .ok ()
  | none, some _ => .ok ()

/-- Checks a manifest. -/
def Manifest.validate (m : Manifest) : Except ManifestFault Unit := do
  if m.schemaVersion ≠ BlinkBench.schemaVersion then
    throw (.unsupportedSchema m.schemaVersion)
  if m.board.ports.isEmpty then
    throw (.noPorts m.board.name)
  let used ← checkPorts [] [] m.board.ports
  checkRegisters used m.board.registers
  if m.board.historyLimit = 0 then
    throw .zeroHistory
  if m.board.drivenPort?.isNone then
    throw (.unknownDriverPort m.board.driverPort)
  m.limits.check

end BlinkBench

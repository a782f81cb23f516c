import BlinkBench.Bus.Basic
/-!
# Buses that change in place

A write and a new port give another bus, or a fault and no bus. Here they are made in place: by a program
that goes through the same checks, and what it has changed before it fails stays changed. It is shown that
nothing was: in place, too, they are made as a whole or not at all.
-/
namespace BlinkBench

/-- A program that changes something in place. A fault takes nothing back. -/
abbrev InPlace (σ : Type) : Type → Type :=
  EStateM Fault σ

/-- How a change ends that is made as a whole or not at all. -/
def atOnce {σ : Type} (before : σ) : Except Fault σ → EStateM.Result Fault σ Unit
  | .ok after => .ok () after
  | .error fault => .error fault before

/-- Where such a change has failed, all is as before. -/
theorem atOnce_eq_error {σ : Type} {before after : σ} {x : Except Fault σ} {fault : Fault}
    (h : atOnce before x = .error fault after) : after = before := by
  cases x with
  | ok => cases h
  | error =>
    cases h
    rfl

namespace Device

/-- Writes to a register in place. -/
def writeInPlace (w : PortWrite) : InPlace Device Unit := do
  match ← get with
  | .io p => set (io (p.set w))
  | .foreign f =>
    if let some fault := f.refusal? f.taken w then throw fault
    set (foreign { f with taken := w :: f.taken })

theorem writeInPlace_run (d : Device) (w : PortWrite) :
    (writeInPlace w).run d = atOnce d (d.write w) := by
  cases d with
  | io p => rfl
  | foreign f =>
    rw [write, Foreign.write]
    cases h : f.refusal? f.taken w <;> simp [writeInPlace, atOnce, Except.map, h]

end Device

namespace Bus

/-- Writes a byte in place to the first port that answers at an address, if there is one. -/
def writePortsInPlace (address : UInt64) (value : UInt8) :
    List PortEntry → Option (EStateM.Result Fault (List PortEntry) Unit)
  | [] => none
  | p :: ports =>
    match p.register? address with
    | some r => some <|
      match (Device.writeInPlace ⟨r, value⟩).run p.device with
      | .ok _ device => .ok () ({ p with device } :: ports)
      | .error fault device => .error fault ({ p with device } :: ports)
    | none => (writePortsInPlace address value ports).map fun
      | .ok _ ports => .ok () (p :: ports)
      | .error fault ports => .error fault (p :: ports)

/-- Writes a byte in place. -/
def writeInPlace (address : UInt64) (value : UInt8) : InPlace Bus Unit := do
  let bus ← get
  match writePortsInPlace address value bus.ports with
  | some (.ok _ ports) => set { bus with ports }
  | some (.error fault ports) =>
    set { bus with ports }
    throw fault
  | none =>
    match bus.registers.write? address value with
    | some registers => set { bus with registers }
    | none => throw (.memoryViolation address)

/-- Maps a port in place. One address is looked at behind the other. -/
def addPortInPlace (p : PortEntry) : InPlace Bus Unit := do
  for address in [p.ddrAddress, p.drAddress] do
    if (← get).isMapped address then throw (.addressConflict address)
  if p.ddrAddress = p.drAddress then throw (.addressConflict p.ddrAddress)
  modify fun bus => { bus with ports := bus.ports ++ [p] }

theorem writePortsInPlace_eq (a : UInt64) (v : UInt8) (ports : List PortEntry) :
    writePortsInPlace a v ports = (writePorts a v ports).map (atOnce ports) := by
  induction ports with
  | nil => rfl
  | cons p ports ih =>
    rw [writePortsInPlace, writePorts]
    cases p.register? a with
    | some r =>
      simp only [Device.writeInPlace_run]
      cases p.device.write ⟨r, v⟩ <;> rfl
    | none =>
      rw [ih]
      cases writePorts a v ports with
      | none => rfl
      | some result => cases result <;> rfl

theorem writeInPlace_run (bus : Bus) (a : UInt64) (v : UInt8) :
    (writeInPlace a v).run bus = atOnce bus (bus.write a v) := by
  simp only [write, writeInPlace, EStateM.run_bind, EStateM.run_get, writePortsInPlace_eq]
  cases writePorts a v bus.ports with
  | none => cases bus.registers.write? a v <;> rfl
  | some result => cases result <;> rfl

theorem addPortInPlace_run (bus : Bus) (p : PortEntry) :
    (addPortInPlace p).run bus = atOnce bus (bus.addPort p) := by
  simp only [addPortInPlace, addPort, List.forIn_cons, List.forIn_nil]
  cases hddr : bus.isMapped p.ddrAddress with
  | true => simp [hddr, atOnce]
  | false =>
    cases hdr : bus.isMapped p.drAddress with
    | true => simp [hddr, hdr, atOnce]
    | false => by_cases hne : p.ddrAddress = p.drAddress <;> simp_all [atOnce]

end Bus

end BlinkBench

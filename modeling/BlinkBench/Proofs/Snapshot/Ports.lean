import BlinkBench.Proofs.AscendingMap
import BlinkBench.Proofs.Bus.Changes
import BlinkBench.Proofs.Snapshot
import BlinkBench.Snapshot.Basic
/-!
# Ports in a snapshot

A snapshot takes the addresses of a port from where it is mapped, and its registers from the first port
with its name; of several with one name it shows the last. So what is shown under a name is a port of
the bus as long as no other port has the name (`shown_port_described`). Two ports with one name are
shown as one that is neither of them (`shown_port_mixed`).
-/
namespace BlinkBench

/-- A port in a snapshot, by the I/O port whose registers are shown. -/
def PortEntry.shown (p : PortEntry) (port : IoPort) : PortSnapshot where
  ddrAddress := p.ddrAddress
  drAddress := p.drAddress
  ddr := port.ddr
  dr := port.dr
  output := port.output
  writes := port.dataWrites.recent
  writeCount := port.dataWrites.total

namespace Bus

variable {bus : Bus} {name : String} {port : IoPort}

/-- The last port with a name. -/
def lastEntry? (bus : Bus) (name : String) : Option PortEntry :=
  bus.ports.reverse.find? (·.name == name)

theorem portEntry?_eq_some {p : PortEntry} (h : bus.portEntry? name = some p) :
    p ∈ bus.ports ∧ p.name = name :=
  ⟨List.mem_of_find?_eq_some h, by simpa using List.find?_some h⟩

theorem lastEntry?_eq_some {p : PortEntry} (h : bus.lastEntry? name = some p) :
    p ∈ bus.ports ∧ p.name = name :=
  ⟨List.mem_reverse.1 (List.mem_of_find?_eq_some h), by simpa using List.find?_some h⟩

theorem ioPort?_eq_some : bus.ioPort? name = some port ↔
    ∃ p, bus.portEntry? name = some p ∧ p.device = .io port := by
  rw [ioPort?, Option.bind_eq_bind, Option.bind_eq_some_iff]
  constructor
  · rintro ⟨p, hp, hport⟩
    refine ⟨p, hp, ?_⟩
    cases hdevice : p.device with
    | io port' =>
      rw [hdevice] at hport
      cases hport
      rfl
    | foreign f =>
      rw [hdevice] at hport
      cases hport
  · rintro ⟨p, hp, hport⟩
    exact ⟨p, hp, by rw [hport]; rfl⟩

end Bus

namespace Snapshot

theorem lookup_filterMap_capturePort? (bus : Bus) (ports : List PortEntry) (name : String) :
    (ports.filterMap (capturePort? bus)).lookup name =
      (bus.ioPort? name).bind fun port => (ports.find? (·.name == name)).map (·.shown port) := by
  induction ports with
  | nil => cases bus.ioPort? name <;> rfl
  | cons p ports ih =>
    rw [List.filterMap_cons, List.find?_cons]
    cases hname : p.name == name with
    | true =>
      -- The name leads to an I/O port for this port as for any other one that has it.
      have heq : p.name = name := by simpa using hname
      cases hport : bus.ioPort? name with
      | none =>
        rw [hport] at ih
        simp only [capturePort?, heq, hport, Option.map_none]
        exact ih
      | some port =>
        simp only [capturePort?, heq, hport, Option.map_some, List.lookup_cons, beq_self_eq_true]
        rfl
    | false =>
      have hne : (name == p.name) = false := by rwa [Bool.beq_comm]
      cases hp : capturePort? bus p with
      | none => exact ih
      | some e =>
        obtain ⟨port, -, rfl⟩ := Option.map_eq_some_iff.1 hp
        simp only [List.lookup_cons, hne]
        exact ih

/-- What a snapshot shows under a name: the last port with this name, and the registers of the
first. -/
theorem find?_ports_capture (report : Report) (bus : Bus) (name : String) :
    (capture report bus).ports.find? name =
      (bus.ioPort? name).bind fun port => (bus.lastEntry? name).map (·.shown port) := by
  show (AscendingMap.ofList _).find? name = _
  rw [AscendingMap.find?_ofList, ← List.filterMap_reverse, lookup_filterMap_capturePort?]
  rfl

end Snapshot

/-- What a snapshot shows of a port is the port of a bus: whoever reads at the addresses shown finds the
registers shown. -/
structure PortSnapshot.Describes (s : PortSnapshot) (bus : Bus) (p : PortEntry) (port : IoPort) :
    Prop where
  mapped : p ∈ bus.ports
  device : p.device = .io port
  ddrAddress : s.ddrAddress = p.ddrAddress
  drAddress : s.drAddress = p.drAddress
  ddr : bus.read s.ddrAddress = .ok s.ddr
  dr : bus.read s.drAddress = .ok s.dr
  output : s.output = s.ddr &&& s.dr
  writes : s.writes = port.dataWrites.recent
  writeCount : s.writeCount = port.dataWrites.total

theorem Bus.Sound.describes {bus : Bus} (h : bus.Sound) {p : PortEntry} {port : IoPort}
    (hp : p ∈ bus.ports) (hport : p.device = .io port) : (p.shown port).Describes bus p port where
  mapped := hp
  device := hport
  ddrAddress := rfl
  drAddress := rfl
  ddr := (h.read_port hp .direction).trans (by rw [hport]; rfl)
  dr := (h.read_port hp .data).trans (by rw [hport]; rfl)
  output := by
    obtain ⟨limit, inputs, hio⟩ := h.devices p hp
    obtain rfl := Device.io.inj (hport.symm.trans hio)
    exact (IoPort.settled_after limit inputs).trans (UInt8.and_comm _ _)
  writes := rfl
  writeCount := rfl

/-- Each port in a snapshot is one of the bus. -/
def Snapshot.Coherent (s : Snapshot) (bus : Bus) : Prop :=
  ∀ name shown, s.ports.find? name = some shown →
    ∃ p port, p.name = name ∧ shown.Describes bus p port

/-- Two ports with one name, and a write to the first of them. -/
def Bus.twins : Bus :=
  .behind [.addPort "port_a" 1 2 64 [], .addPort "port_a" 3 4 64 [], .write 1 0xFF]

/-- The one port that is shown of two with one name is neither: at its address something else is read
than is shown. -/
theorem shown_port_mixed : ¬ (Snapshot.capture .idle .twins).Coherent .twins := by
  intro h
  have hshown : (Snapshot.capture .idle .twins).ports.find? "port_a" =
      some ⟨3, 4, 0xFF, 0, 0, [], 0⟩ := by
    decide
  obtain ⟨p, port, -, hdescribes⟩ := h "port_a" _ hshown
  have hread : Bus.twins.read 3 = .ok 0 := rfl
  have hddr : Bus.twins.read 3 = .ok 0xFF := hdescribes.ddr
  rw [hread] at hddr
  cases hddr

/-- Whatever was done to a bus, a snapshot shows the addresses of the last port with a name and the
registers of the first one. Where only one port has the name, that is a port of the bus. -/
theorem shown_port_described {changes : List Bus.Change} {report : Report} {name : String}
    {shown : PortSnapshot}
    (h : (Snapshot.capture report (.behind changes)).ports.find? name = some shown) :
    let bus := Bus.behind changes
    ∃ first last port, bus.portEntry? name = some first ∧ bus.lastEntry? name = some last ∧
      first.device = .io port ∧ shown = last.shown port ∧
      ((∀ p ∈ bus.ports, ∀ q ∈ bus.ports, p.name = name → q.name = name → p = q) →
        first.name = name ∧ shown.Describes bus first port) := by
  intro bus
  rw [Snapshot.find?_ports_capture] at h
  obtain ⟨port, hport, h⟩ := Option.bind_eq_some_iff.1 h
  obtain ⟨last, hlast, rfl⟩ := Option.map_eq_some_iff.1 h
  obtain ⟨first, hfirst, hdevice⟩ := Bus.ioPort?_eq_some.1 hport
  refine ⟨first, last, port, hfirst, hlast, hdevice, rfl, fun honly => ?_⟩
  obtain ⟨hmem, hname⟩ := Bus.portEntry?_eq_some hfirst
  obtain ⟨hmem', hname'⟩ := Bus.lastEntry?_eq_some hlast
  obtain rfl : first = last := honly first hmem last hmem' hname hname'
  exact ⟨hname, (Bus.sound_behind changes).describes hmem hdevice⟩

/-- A port that no other one shares its name with, beside two that do. -/
theorem shown_port_described_alone :
    let changes : List Bus.Change := [.addPort "port_a" 1 2 64 [], .addPort "port_a" 3 4 64 [],
      .addPort "port_b" 5 6 2 [.drive 0xF0], .write 5 0x0F, .write 6 0xFA]
    let shown : PortSnapshot := ⟨5, 6, 0x0F, 0xFA, 0x0A, [0xFA], 1⟩
    (Snapshot.capture .idle (.behind changes)).ports.find? "port_b" = some shown ∧
      ∃ p port, p.name = "port_b" ∧ shown.Describes (.behind changes) p port := by
  intro changes shown
  have hshown : (Snapshot.capture .idle (.behind changes)).ports.find? "port_b" = some shown := by
    decide
  have honly : ∀ p ∈ (Bus.behind changes).ports, ∀ q ∈ (Bus.behind changes).ports,
      p.name = "port_b" → q.name = "port_b" → p = q := by
    have hports : ∃ first second third, (Bus.behind changes).ports = [first, second, third] ∧
        first.name = "port_a" ∧ second.name = "port_a" := ⟨_, _, _, rfl, rfl, rfl⟩
    obtain ⟨first, second, third, hports, hfirst, hsecond⟩ := hports
    simp_all
  obtain ⟨first, last, port, -, -, -, -, halone⟩ := shown_port_described hshown
  exact ⟨hshown, first, port, halone honly⟩

end BlinkBench

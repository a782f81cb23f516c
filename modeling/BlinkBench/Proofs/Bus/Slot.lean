import BlinkBench.Port
import BlinkBench.Proofs.Bus.Memory
/-!
# A place on a bus

A port of a bus answers at its addresses where no port before it does. An I/O port that is plugged in at
such a place gets what is written through an attached port, and nothing else on the bus changes.
-/
namespace BlinkBench

/-- A place on a bus. The port there is the first to answer at its two addresses, which differ. -/
structure Slot where
  before : List PortEntry
  entry : PortEntry
  behind : List PortEntry
  registers : RegisterFile
  distinct : entry.ddrAddress ≠ entry.drAddress
  first : ∀ q ∈ before, ∀ r, q.register? (entry.address r) = none

namespace Slot

/-- The port at the place with an I/O port plugged in. -/
def plugged (s : Slot) (io : IoPort) : PortEntry :=
  { s.entry with device := .io io }

/-- The bus with an I/O port plugged in. -/
def bus (s : Slot) (io : IoPort) : Bus :=
  ⟨s.before ++ s.plugged io :: s.behind, s.registers⟩

/-- A port that is attached to the I/O port plugged in. -/
def port (s : Slot) (io : IoPort) : BusPort :=
  ⟨s.bus io, s.entry.ddrAddress, s.entry.drAddress⟩

theorem register?_plugged (s : Slot) (io : IoPort) (r : PortRegister) :
    (s.plugged io).register? (s.entry.address r) = some r := by
  have hnodup : s.entry.addresses.Nodup := by
    simp [PortEntry.addresses, s.distinct]
  exact PortEntry.register?_address hnodup r

theorem address_port (s : Slot) (io : IoPort) (r : PortRegister) :
    (s.port io).address r = s.entry.address r := by
  cases r <;> rfl

theorem bus_write (s : Slot) (io : IoPort) (r : PortRegister) (v : UInt8) :
    (s.bus io).write (s.entry.address r) v = .ok (s.bus (io.set ⟨r, v⟩)) := by
  have hhere : Bus.writePorts (s.entry.address r) v (s.plugged io :: s.behind) =
      some (.ok (s.plugged (io.set ⟨r, v⟩) :: s.behind)) := by
    rw [Bus.writePorts, s.register?_plugged]
    rfl
  have hfirst : ∀ q ∈ s.before, q.register? (s.entry.address r) = none := fun q hq => s.first q hq r
  rw [Bus.write, bus, Bus.writePorts_append hfirst, hhere]
  rfl

theorem write (s : Slot) (io : IoPort) (w : PortWrite) :
    (s.port io).write w = s.port (io.set w) := by
  have hbus : (s.port io).bus = s.bus io := rfl
  rw [BusPort.write, address_port, hbus, bus_write]
  rfl

theorem writeAll (s : Slot) (io : IoPort) (writes : List PortWrite) :
    writes.foldl BusPort.write (s.port io) = s.port (writes.foldl IoPort.set io) := by
  induction writes generalizing io with
  | nil => rfl
  | cons w writes ih => rw [List.foldl_cons, write, ih, List.foldl_cons]

theorem read (s : Slot) (io : IoPort) (r : PortRegister) :
    (s.bus io).read (s.entry.address r) = .ok (io.get r) := by
  have hport : (s.bus io).portAt? (s.entry.address r) = some (s.plugged io, r) :=
    Bus.portAt?_eq_some.2
      ⟨s.before, s.behind, rfl, s.register?_plugged io r, fun q hq => s.first q hq r⟩
  rw [Bus.read, hport]
  rfl

end Slot

/-- A port of a bus that stands for both registers of one I/O port. -/
def BusPort.OnIoPort (p : BusPort) : Prop :=
  ∃ q io, q.device = .io io ∧ ∀ r, p.bus.portAt? (p.address r) = some (q, r)

theorem BusPort.OnIoPort.exists_slot {p : BusPort} (h : p.OnIoPort) :
    ∃ (s : Slot) (io : IoPort), p = s.port io := by
  obtain ⟨q, io, hio, hall⟩ := h
  obtain ⟨before, behind, hports, hq, hfirst⟩ := Bus.portAt?_eq_some.1 (hall .direction)
  obtain ⟨before', behind', hports', hq', hfirst'⟩ := Bus.portAt?_eq_some.1 (hall .data)
  have haddress : ∀ r, p.address r = q.address r := by
    rintro (_ | _)
    · exact PortEntry.register?_eq_some hq
    · exact PortEntry.register?_eq_some hq'
  have hdistinct : q.ddrAddress ≠ q.drAddress := by
    intro heq
    have hsame : p.address .direction = p.address .data := by rw [haddress, haddress]; exact heq
    rw [hsame, hq'] at hq
    cases hq
  have hnot : q ∉ before := fun hmem => by simp [hfirst q hmem] at hq
  -- What is before the port where it answers for its directions is also before it for its data.
  have hdata : ∀ x ∈ before, x ∈ before' := by
    intro x hx
    rcases List.append_eq_append_iff.1 (hports.symm.trans hports') with ⟨l, rfl, -⟩ | ⟨l, rfl, hl⟩
    · exact List.mem_append_left _ hx
    · cases l with
      | nil => simpa using hx
      | cons y l =>
        obtain rfl := (List.cons.inj hl).1
        exact absurd (List.mem_append_right before' List.mem_cons_self) hnot
  refine ⟨⟨before, q, behind, p.bus.registers, hdistinct, ?_⟩, io, ?_⟩
  · rintro x hx (_ | _)
    · exact haddress .direction ▸ hfirst x hx
    · exact haddress .data ▸ hfirst' x (hdata x hx)
  · obtain ⟨⟨ports, registers⟩, ddrAddress, drAddress⟩ := p
    obtain ⟨name, d, a, device⟩ := q
    obtain rfl : ddrAddress = d := haddress .direction
    obtain rfl : drAddress = a := haddress .data
    obtain rfl : ports = _ := hports
    obtain rfl : device = .io io := hio
    rfl

/-- On a bus on which at most one port answers at any address each port has a place. -/
theorem Bus.Sound.exists_slot {bus : Bus} (h : bus.Sound) {before behind : List PortEntry}
    {p : PortEntry} (hports : bus.ports = before ++ p :: behind) :
    ∃ (s : Slot) (io : IoPort), s.before = before ∧ s.entry = p ∧ s.behind = behind ∧
      bus = s.bus io ∧ p.device = .io io ∧ io.Settled := by
  have haddresses := h.addresses
  rw [portAddresses, hports, List.flatMap_append, List.flatMap_cons, List.nodup_append] at haddresses
  obtain ⟨-, hrest, hdisjoint⟩ := haddresses
  have hp := (List.nodup_append.1 hrest).1
  obtain ⟨limit, inputs, hio⟩ := h.devices p (by simp [hports])
  have hdistinct : p.ddrAddress ≠ p.drAddress := by
    intro heq
    simp [PortEntry.addresses, heq] at hp
  have hfirst : ∀ q ∈ before, ∀ r, q.register? (p.address r) = none := by
    intro q hq r
    refine PortEntry.register?_eq_none.2 fun ha => ?_
    exact hdisjoint _ (List.mem_flatMap.2 ⟨q, hq, ha⟩) _ (List.mem_append_left _ (p.address_mem r)) rfl
  obtain ⟨ports, registers⟩ := bus
  refine ⟨⟨before, p, behind, registers, hdistinct, hfirst⟩, _, rfl, rfl, rfl, ?_, hio,
    IoPort.settled_after limit inputs⟩
  rw [Slot.bus, Slot.plugged, ← hio]
  exact congrArg (Bus.mk · registers) hports

end BlinkBench

import BlinkBench.Proofs.Bus.Changes
import Mathlib.Data.List.Forall2
/-!
# What a write changes

A write to a bus is felt at one address. Only a direction register reaches further, to the data
register of its own port. `write_stores` says so of every bus, whatever was done to it before.
-/
namespace BlinkBench

namespace PortEntry

/-- A port that has the name and the addresses of another one. It is the same port altogether unless
an address is one of its own. -/
structure SameBut (a : UInt64) (p p' : PortEntry) : Prop where
  name : p'.name = p.name
  ddrAddress : p'.ddrAddress = p.ddrAddress
  drAddress : p'.drAddress = p.drAddress
  elsewhere : p.ddrAddress ≠ a → p.drAddress ≠ a → p' = p

theorem sameBut_refl (a : UInt64) (p : PortEntry) : p.SameBut a p :=
  ⟨rfl, rfl, rfl, fun _ _ => rfl⟩

theorem sameBut_store (p : PortEntry) (a : UInt64) (v : UInt8) : p.SameBut a (p.store a v) where
  name := by
    rw [store_eq]
  ddrAddress := p.address_store a v .direction
  drAddress := p.address_store a v .data
  elsewhere hddr hdr := by
    refine store_of_not_mem (fun ha => ?_) v
    rcases mem_addresses.1 ha with h | h
    · exact hddr h.symm
    · exact hdr h.symm

variable {p : PortEntry} {a : UInt64} {r s : PortRegister} {port : IoPort}

theorem read_store (hr : p.register? a = some r) (hport : p.device = .io port) (v : UInt8)
    (s : PortRegister) : (p.store a v).device.read s = .ok ((port.set ⟨r, v⟩).get s) := by
  rw [store_of_register? hr hport]
  rfl

/-- A write to a port shows in the register that was written to, and in the data register if that was
the direction register. -/
theorem read_store_of_ne (hio : p.IsIo) (v : UInt8) (hne : p.address s ≠ a)
    (hdata : p.ddrAddress = a → s ≠ .data) : (p.store a v).device.read s = p.device.read s := by
  cases hr : p.register? a with
  | none => rw [store_of_not_mem (register?_eq_none.1 hr)]
  | some r =>
    obtain ⟨limit, inputs, hport⟩ := hio
    have ha := register?_eq_some hr
    rw [read_store hr hport, hport]
    cases r with
    | direction =>
      -- Neither register is left: the one was written to, and the other one feels it.
      cases s with
      | direction => exact absurd ha.symm hne
      | data => exact absurd rfl (hdata ha.symm)
    | data =>
      cases s with
      | direction => rfl
      | data => exact absurd ha.symm hne

end PortEntry

namespace Bus

/-- What a write of a byte at an address makes of a bus. -/
structure Stores (bus bus' : Bus) (a : UInt64) (v : UInt8) : Prop where
  /-- A direction register holds what was written, and the data register of its port has the levels
  from outside at the pins that are inputs now. -/
  direction : ∀ p ∈ bus.ports, p.ddrAddress = a → ∃ port, p.device = .io port ∧
    bus'.read a = .ok v ∧ bus.read p.drAddress = .ok port.dr ∧
    bus'.read p.drAddress = .ok ((port.dr &&& v) ||| (port.input &&& ~~~v))
  /-- A data register holds what was written at the pins that are outputs. -/
  data : ∀ p ∈ bus.ports, p.drAddress = a → ∃ port, p.device = .io port ∧
    bus'.read a = .ok ((v &&& port.ddr) ||| (port.input &&& ~~~port.ddr))
  /-- Where no port answers, a plain register holds what was written. -/
  plain : (∀ p ∈ bus.ports, p.ddrAddress ≠ a ∧ p.drAddress ≠ a) → bus'.read a = .ok v
  /-- Any other address is read as before, be it with a fault. -/
  elsewhere : ∀ b ≠ a, (∀ p ∈ bus.ports, p.ddrAddress = a → p.drAddress ≠ b) →
    bus'.read b = bus.read b
  mapped : ∀ b, bus'.isMapped b = bus.isMapped b
  ports : List.Forall₂ (PortEntry.SameBut a) bus.ports bus'.ports
  /-- A register is the same unless it is the one that answers at the address, which keeps its
  name. -/
  registers : ∀ b, (b ≠ a ∨ ∃ p ∈ bus.ports, p.ddrAddress = a ∨ p.drAddress = a) →
    bus'.registers.cells.find? b = bus.registers.cells.find? b
  names : ∀ b, (bus'.registers.cells.find? b).map (·.name) =
    (bus.registers.cells.find? b).map (·.name)

variable {bus bus' : Bus} {p : PortEntry} {a b : UInt64} {v : UInt8}

theorem mem_portAddresses_of_ddrAddress (hp : p ∈ bus.ports) (ha : p.ddrAddress = a) :
    a ∈ bus.portAddresses :=
  mem_portAddresses.2 ⟨p, hp, .direction, ha.symm⟩

theorem mem_portAddresses_of_drAddress (hp : p ∈ bus.ports) (ha : p.drAddress = a) :
    a ∈ bus.portAddresses :=
  mem_portAddresses.2 ⟨p, hp, .data, ha.symm⟩

/-- What is read at an address of a port behind a write to a port. -/
theorem Sound.read_of_write_port (h : bus.Sound) (ha : a ∈ bus.portAddresses)
    (hwrite : bus.write a v = .ok bus') (hp : p ∈ bus.ports) (s : PortRegister) :
    bus'.read (p.address s) = (p.store a v).device.read s := by
  have h' := h.write hwrite
  rw [h.write_port ha] at hwrite
  cases hwrite
  rw [← p.address_store a v s]
  exact h'.read_port (List.mem_map_of_mem hp) s

/-- Behind a write to a register of a port both its registers are read from the I/O port that took
the write. -/
theorem Sound.read_of_write (h : bus.Sound) (hp : p ∈ bus.ports) {port : IoPort}
    (hport : p.device = .io port) (r s : PortRegister)
    (hwrite : bus.write (p.address r) v = .ok bus') :
    bus'.read (p.address s) = .ok ((port.set ⟨r, v⟩).get s) := by
  have hnodup : p.addresses.Nodup := (List.nodup_flatMap.1 h.addresses).1 p hp
  rw [h.read_of_write_port (mem_portAddresses.2 ⟨p, hp, r, rfl⟩) hwrite hp,
    PortEntry.read_store (PortEntry.register?_address hnodup r) hport]

theorem Sound.stores_port (h : bus.Sound) (ha : a ∈ bus.portAddresses) (v : UInt8) :
    bus.Stores { bus with ports := bus.ports.map (·.store a v) } a v where
  direction p hp hpa := by
    subst hpa
    obtain ⟨limit, inputs, hport⟩ := h.devices p hp
    refine ⟨_, hport, h.read_of_write hp hport .direction .direction (h.write_port ha v), ?_, ?_⟩
    · exact (h.read_port hp .data).trans (by rw [hport]; rfl)
    · rw [UInt8.and_comm _ (~~~v)]
      exact h.read_of_write hp hport .direction .data (h.write_port ha v)
  data p hp hpa := by
    subst hpa
    obtain ⟨limit, inputs, hport⟩ := h.devices p hp
    refine ⟨_, hport, ?_⟩
    rw [UInt8.and_comm _ (~~~_)]
    exact h.read_of_write hp hport .data .data (h.write_port ha v)
  plain hnone := by
    obtain ⟨p, hp, r, rfl⟩ := mem_portAddresses.1 ha
    cases r with
    | direction => exact absurd rfl (hnone p hp).1
    | data => exact absurd rfl (hnone p hp).2
  elsewhere b hb hother := by
    by_cases hport : b ∈ bus.portAddresses
    · -- The port that answers here may be the one that took the write, at its other register.
      obtain ⟨p, hp, s, rfl⟩ := mem_portAddresses.1 hport
      rw [h.read_of_write_port ha (h.write_port ha v) hp, h.read_port hp,
        PortEntry.read_store_of_ne (h.devices p hp) v hb]
      rintro hpa rfl
      exact hother p hp hpa rfl
    · have hsame := (h.portAddresses_write (h.write_port ha v)).1
      rw [read_plain hport, read_plain (by rwa [hsame])]
  mapped := isMapped_of_write (h.write_port ha v)
  ports := by
    rw [List.forall₂_map_right_iff]
    exact List.forall₂_same.2 fun p _ => p.sameBut_store a v
  registers _ _ := rfl
  names _ := rfl

theorem Sound.stores_plain {registers : RegisterFile} (h : bus.Sound) (ha : a ∉ bus.portAddresses)
    (hregisters : bus.registers.write? a v = some registers) :
    bus.Stores { bus with registers } a v := by
  have hwrite : bus.write a v = .ok { bus with registers } := by
    rw [write_plain ha, hregisters]
    rfl
  have hfind := RegisterFile.find?_of_write? hregisters
  have hread : ∀ b ∉ bus.portAddresses, ({ bus with registers } : Bus).read b =
      (registers.read? b).elim (.error (.memoryViolation b)) .ok := fun b hb => read_plain hb
  refine
    { direction := fun p hp hpa => absurd (mem_portAddresses_of_ddrAddress hp hpa) ha
      data := fun p hp hpa => absurd (mem_portAddresses_of_drAddress hp hpa) ha
      plain := fun _ => ?_, elsewhere := fun b hb _ => ?_, mapped := isMapped_of_write hwrite
      ports := List.forall₂_same.2 fun p _ => p.sameBut_refl a
      registers := fun b hb => ?_, names := fun b => ?_ }
  · rw [hread a ha, RegisterFile.read?_of_write? hregisters]
    rfl
  · by_cases hport : b ∈ bus.portAddresses
    · obtain ⟨p, hp, s, rfl⟩ := mem_portAddresses.1 hport
      rw [h.read_port hp]
      exact (h.write hwrite).read_port hp s
    · rw [hread b hport, read_plain hport, RegisterFile.read?_of_write?_of_ne hregisters hb]
  · rcases hb with hb | ⟨p, hp, hpa | hpa⟩
    · rw [hfind, beq_false_of_ne hb]
      simp
    · exact absurd (mem_portAddresses_of_ddrAddress hp hpa) ha
    · exact absurd (mem_portAddresses_of_drAddress hp hpa) ha
  · rw [hfind, Option.map_map]
    congr 1
    funext r
    simp only [Function.comp_apply]
    split <;> rfl

theorem Sound.stores (h : bus.Sound) (hwrite : bus.write a v = .ok bus') :
    bus.Stores bus' a v := by
  obtain ⟨ha, rfl⟩ | ⟨ha, registers, hregisters, rfl⟩ := h.write_cases hwrite
  · exact h.stores_port ha v
  · exact h.stores_plain ha hregisters

/-! ## Main theorem -/

/-- Whatever was done to a bus, a write that is not refused is felt at its address, by the data register
beside a direction register, and nowhere else. -/
theorem write_stores {changes : List Change} {a : UInt64} {v : UInt8} {bus : Bus}
    (hwrite : (behind changes).write a v = .ok bus) : (behind changes).Stores bus a v :=
  (sound_behind changes).stores hwrite

/-- A direction register that has a plain register behind it, on a port that is driven from outside. -/
theorem write_stores_shadowed :
    let bus := behind [.build Board.h8_3067, .mapRegister Board.h8PortBDirection "shadow" 7,
      .drive "port_b" 0xA5, .write Board.h8PortBData 0x0F]
    ∃ bus', bus.write Board.h8PortBDirection 0xF0 = .ok bus' ∧
      bus.Stores bus' Board.h8PortBDirection 0xF0 ∧
      bus'.registers.read? Board.h8PortBDirection = some 7 ∧
      bus'.read Board.h8PortBData = .ok 0xA5 :=
  ⟨_, rfl, write_stores rfl, rfl, rfl⟩

end Bus

end BlinkBench

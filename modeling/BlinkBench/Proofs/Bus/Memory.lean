import BlinkBench.Proofs.Bus.Mapping
import BlinkBench.Proofs.IoPort
import Mathlib.Data.List.Nodup
/-!
# A bus as a memory

Where the addresses of the ports of a bus all differ and an I/O port is behind each of them, every
address has one thing that answers: a register of a port, a plain register, or nothing. Reads and
writes agree on what that is.
-/
namespace BlinkBench

/-! ## The addresses of a port -/

namespace PortEntry

variable {p : PortEntry} {a : UInt64} {r : PortRegister}

/-- The addresses of both registers. -/
def addresses (p : PortEntry) : List UInt64 :=
  [p.ddrAddress, p.drAddress]

theorem mem_addresses : a ∈ p.addresses ↔ a = p.ddrAddress ∨ a = p.drAddress := by
  simp [addresses]

theorem address_mem (p : PortEntry) (r : PortRegister) : p.address r ∈ p.addresses := by
  cases r <;> simp [addresses, address]

theorem register?_eq_some (h : p.register? a = some r) : a = p.address r := by
  unfold register? at h
  split at h
  · cases h
    assumption
  · split at h
    · cases h
      assumption
    · cases h

theorem register?_eq_none : p.register? a = none ↔ a ∉ p.addresses := by
  rw [← Option.not_isSome_iff_eq_none, isSome_register?, mem_addresses]
  simp

theorem exists_register? (h : a ∈ p.addresses) : ∃ r, p.register? a = some r := by
  rw [← Option.isSome_iff_exists, isSome_register?]
  simpa using mem_addresses.1 h

theorem register?_address (h : p.addresses.Nodup) (r : PortRegister) :
    p.register? (p.address r) = some r := by
  have hne : p.drAddress ≠ p.ddrAddress := by
    intro heq
    simp [addresses, heq] at h
  cases r <;> simp [register?, address, hne]

/-- An I/O port that was used in some way since its reset is behind the port. -/
def IsIo (p : PortEntry) : Prop :=
  ∃ limit inputs, p.device = .io (.after limit inputs)

/-- The port behind a write of a byte at an address. It feels that at its own addresses only. -/
def store (p : PortEntry) (address : UInt64) (value : UInt8) : PortEntry :=
  match p.register? address, p.device with
  | some r, .io port => { p with device := .io (port.set ⟨r, value⟩) }
  | _, _ => p

theorem store_eq (p : PortEntry) (a : UInt64) (v : UInt8) :
    p.store a v = { p with device := (p.store a v).device } := by
  unfold store
  split <;> rfl

@[simp] theorem address_store (p : PortEntry) (a : UInt64) (v : UInt8) (r : PortRegister) :
    (p.store a v).address r = p.address r := by
  rw [store_eq]
  cases r <;> rfl

@[simp] theorem addresses_store (p : PortEntry) (a : UInt64) (v : UInt8) :
    (p.store a v).addresses = p.addresses := by
  rw [store_eq]
  rfl

theorem store_of_not_mem (h : a ∉ p.addresses) (v : UInt8) : p.store a v = p := by
  rw [store, register?_eq_none.2 h]

theorem store_of_register? {port : IoPort} (hr : p.register? a = some r)
    (hport : p.device = .io port) (v : UInt8) :
    p.store a v = { p with device := .io (port.set ⟨r, v⟩) } := by
  rw [store, hr, hport]

theorem IsIo.exists_port (h : p.IsIo) : ∃ port, p.device = .io port := by
  obtain ⟨limit, inputs, hport⟩ := h
  exact ⟨_, hport⟩

theorem IsIo.store (h : p.IsIo) (a : UInt64) (v : UInt8) : (p.store a v).IsIo := by
  obtain ⟨limit, inputs, hport⟩ := h
  cases hr : p.register? a with
  | none =>
    rw [store_of_not_mem (register?_eq_none.1 hr)]
    exact ⟨limit, inputs, hport⟩
  | some r =>
    rw [store_of_register? hr hport]
    refine ⟨limit, inputs ++ [.write r.offset v], ?_⟩
    rw [IoPort.after_append, List.foldl_cons, List.foldl_nil, IoPort.feed_write]

end PortEntry

/-! ## Who answers at an address -/

namespace Bus

/-- The addresses of all ports. -/
def portAddresses (bus : Bus) : List UInt64 :=
  bus.ports.flatMap PortEntry.addresses

/-- A bus on which at most one port answers at any address, and that is an I/O port. -/
structure Sound (bus : Bus) : Prop where
  addresses : bus.portAddresses.Nodup
  devices : ∀ p ∈ bus.ports, p.IsIo

variable {bus bus' : Bus} {ports : List PortEntry} {p : PortEntry} {a : UInt64} {v : UInt8}

theorem mem_portAddresses : a ∈ bus.portAddresses ↔ ∃ p ∈ bus.ports, ∃ r, a = p.address r := by
  rw [portAddresses, List.mem_flatMap]
  constructor
  · rintro ⟨p, hp, ha⟩
    obtain ⟨r, hr⟩ := PortEntry.exists_register? ha
    exact ⟨p, hp, r, PortEntry.register?_eq_some hr⟩
  · rintro ⟨p, hp, r, rfl⟩
    exact ⟨p, hp, p.address_mem r⟩

theorem isMapped_iff : bus.isMapped a = true ↔
    a ∈ bus.portAddresses ∨ bus.registers.isMapped a = true := by
  have hports : bus.ports.any (fun p => (p.register? a).isSome) = true ↔ a ∈ bus.portAddresses := by
    simp only [List.any_eq_true, PortEntry.isSome_register?, portAddresses, List.mem_flatMap,
      PortEntry.mem_addresses, Bool.or_eq_true, beq_iff_eq]
  rw [isMapped, Bool.or_eq_true, hports, Or.comm]

theorem isMapped_eq_false : bus.isMapped a = false ↔
    a ∉ bus.portAddresses ∧ bus.registers.isMapped a = false := by
  rw [← Bool.not_eq_true, isMapped_iff, not_or, Bool.not_eq_true]

theorem findSome?_register (hnodup : (ports.flatMap PortEntry.addresses).Nodup) (hp : p ∈ ports)
    (r : PortRegister) :
    ports.findSome? (fun q => (q.register? (p.address r)).map (q, ·)) = some (p, r) := by
  induction ports with
  | nil => cases hp
  | cons q ports ih =>
    rw [List.flatMap_cons, List.nodup_append] at hnodup
    obtain ⟨hq, hrest, hdisjoint⟩ := hnodup
    rw [List.findSome?_cons]
    rcases List.mem_cons.1 hp with rfl | hp
    · rw [PortEntry.register?_address hq]
      rfl
    · -- The first port has no address of one that comes later.
      have hnone : q.register? (p.address r) = none := by
        refine PortEntry.register?_eq_none.2 fun ha => ?_
        exact hdisjoint _ ha _ (List.mem_flatMap.2 ⟨p, hp, p.address_mem r⟩) rfl
      rw [hnone]
      exact ih hrest hp

theorem portAt?_eq_none (ha : a ∉ bus.portAddresses) : bus.portAt? a = none := by
  refine List.findSome?_eq_none_iff.2 fun p hp => ?_
  have hnone : p.register? a = none :=
    PortEntry.register?_eq_none.2 fun h => ha (List.mem_flatMap.2 ⟨p, hp, h⟩)
  rw [hnone]
  rfl

theorem not_mem_of_portAt?_eq_none (h : bus.portAt? a = none) : a ∉ bus.portAddresses := by
  intro ha
  obtain ⟨p, hp, hpa⟩ := List.mem_flatMap.1 ha
  have hnone := List.findSome?_eq_none_iff.1 h p hp
  exact PortEntry.register?_eq_none.1 (Option.map_eq_none_iff.1 hnone) hpa

/-! ## Reads -/

/-- At an address of a port this port is read. -/
theorem Sound.read_port (h : bus.Sound) (hp : p ∈ bus.ports) (r : PortRegister) :
    bus.read (p.address r) = p.device.read r := by
  have hport : bus.portAt? (p.address r) = some (p, r) := findSome?_register h.addresses hp r
  rw [read, hport]

/-- At any other address a plain register is read, if there is one. -/
theorem read_plain (ha : a ∉ bus.portAddresses) :
    bus.read a = (bus.registers.read? a).elim (.error (.memoryViolation a)) .ok := by
  rw [read, portAt?_eq_none ha]
  cases bus.registers.read? a <;> rfl

/-! ## Writes -/

theorem writePorts_of_not_mem (ha : a ∉ ports.flatMap PortEntry.addresses) :
    writePorts a v ports = none := by
  induction ports with
  | nil => rfl
  | cons p ports ih =>
    rw [List.flatMap_cons, List.mem_append, not_or] at ha
    rw [writePorts, PortEntry.register?_eq_none.2 ha.1]
    simp only [ih ha.2, Option.map_none]

theorem map_store_of_not_mem (ha : a ∉ ports.flatMap PortEntry.addresses) (v : UInt8) :
    ports.map (·.store a v) = ports := by
  have hsame : ∀ p ∈ ports, p.store a v = id p := fun p hp =>
    PortEntry.store_of_not_mem (fun h => ha (List.mem_flatMap.2 ⟨p, hp, h⟩)) v
  rw [List.map_congr_left hsame, List.map_id]

theorem writePorts_of_mem (hnodup : (ports.flatMap PortEntry.addresses).Nodup)
    (hio : ∀ p ∈ ports, ∃ port, p.device = .io port)
    (ha : a ∈ ports.flatMap PortEntry.addresses) :
    writePorts a v ports = some (.ok (ports.map (·.store a v))) := by
  induction ports with
  | nil => cases ha
  | cons p ports ih =>
    rw [List.flatMap_cons, List.nodup_append] at hnodup
    obtain ⟨hp, hrest, hdisjoint⟩ := hnodup
    rw [List.map_cons, writePorts]
    rw [List.flatMap_cons, List.mem_append] at ha
    cases hr : p.register? a with
    | some r =>
      -- The first port takes the write, so no other one has the address.
      obtain ⟨port, hport⟩ := hio p List.mem_cons_self
      have hothers : a ∉ ports.flatMap PortEntry.addresses := fun hother =>
        hdisjoint a (PortEntry.register?_eq_some hr ▸ p.address_mem r) a hother rfl
      rw [map_store_of_not_mem hothers, PortEntry.store_of_register? hr hport, hport]
      rfl
    | none =>
      have hp := PortEntry.register?_eq_none.1 hr
      simp only [PortEntry.store_of_not_mem hp,
        ih hrest (fun q hq => hio q (List.mem_cons_of_mem _ hq)) (ha.resolve_left hp)]
      rfl

/-- A write at an address of a port goes to this port. -/
theorem Sound.write_port (h : bus.Sound) (ha : a ∈ bus.portAddresses) (v : UInt8) :
    bus.write a v = .ok { bus with ports := bus.ports.map (·.store a v) } := by
  rw [write, writePorts_of_mem h.addresses (fun p hp => (h.devices p hp).exists_port) ha]

/-- A write at any other address goes to a plain register, if there is one. -/
theorem write_plain (ha : a ∉ bus.portAddresses) (v : UInt8) :
    bus.write a v = (bus.registers.write? a v).elim (.error (.memoryViolation a))
      fun registers => .ok { bus with registers } := by
  rw [write, writePorts_of_not_mem ha]
  cases bus.registers.write? a v <;> rfl

theorem write_plain_eq_ok (ha : a ∉ bus.portAddresses) (hwrite : bus.write a v = .ok bus') :
    ∃ registers, bus.registers.write? a v = some registers ∧ bus' = { bus with registers } := by
  rw [write_plain ha] at hwrite
  cases hregisters : bus.registers.write? a v with
  | none =>
    rw [hregisters] at hwrite
    cases hwrite
  | some registers =>
    rw [hregisters] at hwrite
    exact ⟨registers, rfl, (Except.ok.inj hwrite).symm⟩

theorem read_of_not_isMapped (h : bus.isMapped a = false) :
    bus.read a = .error (.memoryViolation a) := by
  obtain ⟨hport, hregister⟩ := isMapped_eq_false.1 h
  rw [← RegisterFile.isSome_read?, Option.isSome_eq_false_iff, Option.isNone_iff_eq_none] at hregister
  rw [read_plain hport, hregister]
  rfl

theorem write_of_not_isMapped (h : bus.isMapped a = false) (v : UInt8) :
    bus.write a v = .error (.memoryViolation a) := by
  obtain ⟨hport, hregister⟩ := isMapped_eq_false.1 h
  rw [write_plain hport, RegisterFile.write?_of_not_isMapped hregister]
  rfl

/-- What a write can do. -/
theorem Sound.write_cases (h : bus.Sound) (hwrite : bus.write a v = .ok bus') :
    (a ∈ bus.portAddresses ∧ bus' = { bus with ports := bus.ports.map (·.store a v) }) ∨
    (a ∉ bus.portAddresses ∧ ∃ registers, bus.registers.write? a v = some registers ∧
      bus' = { bus with registers }) := by
  by_cases ha : a ∈ bus.portAddresses
  · rw [h.write_port ha] at hwrite
    exact .inl ⟨ha, (Except.ok.inj hwrite).symm⟩
  · exact .inr ⟨ha, write_plain_eq_ok ha hwrite⟩

/-! ## Writes on any bus -/

/-- Ports that do not answer at an address leave a write to those behind them. -/
theorem writePorts_append {before : List PortEntry} (h : ∀ q ∈ before, q.register? a = none)
    (ports : List PortEntry) :
    writePorts a v (before ++ ports) = (writePorts a v ports).map (·.map (before ++ ·)) := by
  induction before with
  | nil =>
    rw [List.nil_append]
    rcases writePorts a v ports with _ | _ | _ <;> rfl
  | cons q before ih =>
    rw [List.cons_append, writePorts, h q List.mem_cons_self,
      ih fun q hq => h q (List.mem_cons_of_mem _ hq)]
    rcases writePorts a v ports with _ | _ | _ <;> rfl

/-- The port that answers at an address is the first one that does. -/
theorem portAt?_eq_some {r : PortRegister} :
    bus.portAt? a = some (p, r) ↔ ∃ before behind, bus.ports = before ++ p :: behind ∧
      p.register? a = some r ∧ ∀ q ∈ before, q.register? a = none := by
  simp only [portAt?, List.findSome?_eq_some_iff, Option.map_eq_none_iff, Option.map_eq_some_iff,
    Prod.mk.injEq]
  constructor
  · rintro ⟨before, p, behind, hports, ⟨r, hr, rfl, rfl⟩, hbefore⟩
    exact ⟨before, behind, hports, hr, hbefore⟩
  · rintro ⟨before, behind, hports, hr, hbefore⟩
    exact ⟨before, p, behind, hports, ⟨r, hr, rfl, rfl⟩, hbefore⟩

/-- Where a port answers, its device decides on a write. -/
theorem write_of_portAt? {r : PortRegister} (h : bus.portAt? a = some (p, r)) (v : UInt8) :
    ∃ before behind, bus.ports = before ++ p :: behind ∧ bus.write a v = (p.device.write ⟨r, v⟩).map
      fun device => { bus with ports := before ++ { p with device } :: behind } := by
  obtain ⟨before, behind, hports, hr, hbefore⟩ := portAt?_eq_some.1 h
  have hhere : writePorts a v (p :: behind) =
      some ((p.device.write ⟨r, v⟩).map fun device => { p with device } :: behind) := by
    rw [writePorts, hr]
  refine ⟨before, behind, hports, ?_⟩
  rw [write, hports, writePorts_append hbefore, hhere]
  cases p.device.write ⟨r, v⟩ <;> rfl

/-- What a write can do: the port that answers takes it, or a plain register does. -/
theorem write_cases (hwrite : bus.write a v = .ok bus') :
    (∃ before p r behind device, bus.ports = before ++ p :: behind ∧
      p.device.write ⟨r, v⟩ = .ok device ∧
      bus' = { bus with ports := before ++ { p with device } :: behind }) ∨
    ∃ registers, bus.registers.write? a v = some registers ∧ bus' = { bus with registers } := by
  cases h : bus.portAt? a with
  | some found =>
    obtain ⟨p, r⟩ := found
    obtain ⟨before, behind, hports, hmap⟩ := write_of_portAt? h v
    rw [hmap] at hwrite
    cases hdevice : p.device.write ⟨r, v⟩ with
    | error fault =>
      rw [hdevice] at hwrite
      cases hwrite
    | ok device =>
      rw [hdevice] at hwrite
      exact .inl ⟨before, p, r, behind, device, hports, hdevice, (Except.ok.inj hwrite).symm⟩
  | none =>
    exact .inr (write_plain_eq_ok (not_mem_of_portAt?_eq_none h) hwrite)

/-- No write changes what is mapped. -/
theorem isMapped_of_write (hwrite : bus.write a v = .ok bus') (b : UInt64) :
    bus'.isMapped b = bus.isMapped b := by
  obtain ⟨before, p, r, behind, device, hports, -, rfl⟩ | ⟨registers, hregisters, rfl⟩ :=
    write_cases hwrite
  · simp only [isMapped, hports, List.any_append, List.any_cons]
    rfl
  · simp only [isMapped, RegisterFile.isMapped_of_write? hregisters]

end Bus

end BlinkBench

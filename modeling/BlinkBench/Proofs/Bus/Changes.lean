import BlinkBench.Proofs.Bus.Memory
import Mathlib.Data.List.Flatten
/-!
# Whatever is done to a bus

A bus changes where it is built for a board, where ports come and go, where registers are mapped, and
where bytes are written or pins driven. `addresses_consistent` says that no list of changes, those that
are refused among them, makes two ports answer at one address, and that reads, writes and the question
whether an address is mapped agree.
-/
namespace BlinkBench

namespace Bus

/-! ## Changes -/

/-- What can be done to a bus from outside. -/
inductive Change where
  /-- A bus for a board takes the place of the bus. -/
  | build (b : Board)
  /-- Maps an I/O port, used in some way before. -/
  | addPort (name : String) (ddrAddress drAddress : UInt64) (limit : Nat)
      (inputs : List IoPort.Input)
  /-- Takes all ports with a name away. -/
  | removePort (name : String)
  /-- Maps a plain register, whatever has the address already. -/
  | mapRegister (address : UInt64) (name : String) (reset : UInt8)
  /-- Writes a byte. -/
  | write (address : UInt64) (value : UInt8)
  /-- Drives the pins of the first port with a name. -/
  | drive (name : String) (levels : UInt8)
deriving DecidableEq

/-- Whether a change maps a plain register without a look at what has the address. -/
def Change.mapsRegister : Change → Bool
  | .mapRegister .. => true
  | _ => false

/-- A bus behind a change. One that is refused changes nothing. -/
def change (bus : Bus) : Change → Bus
  | .build b => (ofBoard b).toOption.getD bus
  | .addPort name ddrAddress drAddress limit inputs =>
    (bus.addPort ⟨name, ddrAddress, drAddress, .io (.after limit inputs)⟩).toOption.getD bus
  | .removePort name => bus.removePort name
  | .mapRegister address name reset => bus.mapRegister address name reset
  | .write address value => (bus.write address value).toOption.getD bus
  | .drive name levels => (bus.drive? name levels).getD bus

/-- An empty bus behind some changes. -/
def behind (changes : List Change) : Bus :=
  changes.foldl change empty

variable {bus bus' : Bus} {p : PortEntry} {a : UInt64} {v : UInt8}

/-- What holds of a bus and of the one that is made of it, if any, holds behind the attempt. -/
theorem keep_getD {P : Bus → Prop} {x : Option Bus} (h : P bus)
    (hx : ∀ bus', x = some bus' → P bus') : P (x.getD bus) := by
  cases x with
  | none => exact h
  | some bus' => exact hx bus' rfl

theorem keep_or {ε : Type} {P : Bus → Prop} {x : Except ε Bus} (h : P bus)
    (hx : ∀ bus', x = .ok bus' → P bus') : P (x.toOption.getD bus) := by
  refine keep_getD h fun bus' hbus' => hx bus' ?_
  cases x with
  | error e => cases hbus'
  | ok bus => exact congrArg Except.ok (Option.some.inj hbus')

/-! ## What changes do to the addresses -/

theorem portAddresses_addPort (h : bus.addPort p = .ok bus') :
    bus'.portAddresses = bus.portAddresses ++ p.addresses ∧ bus'.registers = bus.registers := by
  obtain ⟨-, -, -, rfl⟩ := addPort_eq_ok h
  exact ⟨by simp [portAddresses], rfl⟩

theorem portAddresses_map_store (ports : List PortEntry) (a : UInt64) (v : UInt8) :
    (ports.map (·.store a v)).flatMap PortEntry.addresses = ports.flatMap PortEntry.addresses := by
  simp [List.flatMap_map]

/-- A write changes no addresses, whatever it goes to. -/
theorem Sound.portAddresses_write (h : bus.Sound) (hwrite : bus.write a v = .ok bus') :
    bus'.portAddresses = bus.portAddresses ∧
      ∀ b, bus'.registers.isMapped b = bus.registers.isMapped b := by
  obtain ⟨-, rfl⟩ | ⟨-, registers, hregisters, rfl⟩ := h.write_cases hwrite
  · exact ⟨portAddresses_map_store bus.ports a v, fun b => rfl⟩
  · exact ⟨rfl, RegisterFile.isMapped_of_write? hregisters⟩

/-- Where pins are driven, that is done to one I/O port. -/
theorem drivePorts_eq_some {name : String} {levels : UInt8} {ports ports' : List PortEntry}
    (h : drivePorts name levels ports = some ports') : ∃ before p port behind,
      ports = before ++ p :: behind ∧ p.device = .io port ∧
      ports' = before ++ { p with device := .io (port.drive levels) } :: behind := by
  induction ports generalizing ports' with
  | nil => cases h
  | cons p ports ih =>
    rw [drivePorts] at h
    split at h
    · split at h
      · rename_i port hport
        cases h
        exact ⟨[], p, port, ports, rfl, hport, rfl⟩
      · cases h
    · obtain ⟨rest, hrest, rfl⟩ := Option.map_eq_some_iff.1 h
      obtain ⟨before, q, port, behind, rfl, hport, rfl⟩ := ih hrest
      exact ⟨p :: before, q, port, behind, rfl, hport, rfl⟩

theorem portAddresses_drive? {name : String} {levels : UInt8}
    (h : bus.drive? name levels = some bus') :
    bus'.portAddresses = bus.portAddresses ∧ bus'.registers = bus.registers := by
  obtain ⟨ports, hports, rfl⟩ := Option.map_eq_some_iff.1 h
  obtain ⟨before, p, port, behind, hsplit, -, rfl⟩ := drivePorts_eq_some hports
  refine ⟨?_, rfl⟩
  simp only [portAddresses, hsplit, List.flatMap_append, List.flatMap_cons]
  rfl

/-! ## One thing at each address -/

theorem sound_empty : Bus.empty.Sound where
  addresses := List.nodup_nil
  devices := nofun

theorem Sound.hasIoPorts (h : bus.Sound) : bus.HasIoPorts :=
  fun p hp => (h.devices p hp).exists_port

theorem Sound.addPort (h : bus.Sound) (hp : p.IsIo) (hadd : bus.addPort p = .ok bus') :
    bus'.Sound := by
  obtain ⟨hddr, hdr, hne, rfl⟩ := addPort_eq_ok hadd
  constructor
  · rw [(portAddresses_addPort hadd).1, List.nodup_append]
    refine ⟨h.addresses, by simp [PortEntry.addresses, hne], ?_⟩
    rintro a ha b hb rfl
    rcases PortEntry.mem_addresses.1 hb with rfl | rfl
    · exact (isMapped_eq_false.1 hddr).1 ha
    · exact (isMapped_eq_false.1 hdr).1 ha
  · intro q hq
    rcases List.mem_append.1 hq with hq | hq
    · exact h.devices q hq
    · rwa [List.mem_singleton.1 hq]

theorem Sound.removePort (h : bus.Sound) (name : String) : (bus.removePort name).Sound where
  addresses := h.addresses.sublist (List.filter_sublist.flatMap _)
  devices p hp := h.devices p (List.mem_of_mem_filter hp)

theorem Sound.of_ports (h : bus.Sound) (hports : bus'.ports = bus.ports) : bus'.Sound where
  addresses := by
    rw [portAddresses, hports]
    exact h.addresses
  devices := hports ▸ h.devices

theorem Sound.write (h : bus.Sound) (hwrite : bus.write a v = .ok bus') : bus'.Sound := by
  constructor
  · rw [(h.portAddresses_write hwrite).1]
    exact h.addresses
  · obtain ⟨-, rfl⟩ | ⟨-, registers, -, rfl⟩ := h.write_cases hwrite
    · intro p hp
      obtain ⟨q, hq, rfl⟩ := List.mem_map.1 hp
      exact (h.devices q hq).store a v
    · exact h.devices

theorem Sound.drive {name : String} {levels : UInt8} (h : bus.Sound)
    (hdrive : bus.drive? name levels = some bus') : bus'.Sound := by
  constructor
  · rw [(portAddresses_drive? hdrive).1]
    exact h.addresses
  · obtain ⟨ports, hports, rfl⟩ := Option.map_eq_some_iff.1 hdrive
    obtain ⟨before, p, port, behind, hsplit, hport, rfl⟩ := drivePorts_eq_some hports
    have hdevices := h.devices
    rw [hsplit] at hdevices
    intro q hq
    rcases List.mem_append.1 hq with hq | hq
    · exact hdevices q (List.mem_append_left _ hq)
    rcases List.mem_cons.1 hq with rfl | hq
    · -- The port that is driven has one input more behind it.
      obtain ⟨limit, inputs, hp⟩ := hdevices p (by simp)
      obtain rfl : port = .after limit inputs := Device.io.inj (hport.symm.trans hp)
      refine ⟨limit, inputs ++ [.drive levels], ?_⟩
      rw [IoPort.after_append]
      rfl
    · exact hdevices q (by simp [hq])

/-! ## Buses for boards -/

/-- What holds of an empty bus and is kept by each port and each register holds of a bus for a board.
A register is mapped at an address that is free. -/
theorem ofBoard_keeps {P : Bus → Prop} {b : Board} (hempty : P empty)
    (hport : ∀ {bus bus' : Bus} {q : PortSpec}, P bus →
      bus.addPort (.ofSpec b.historyLimit.toNat q) = .ok bus' → P bus')
    (hregister : ∀ {bus : Bus} {r : RegisterSpec}, P bus → bus.isMapped r.address = false →
      P (bus.mapRegister r.address r.name r.reset))
    (h : ofBoard b = .ok bus) : P bus := by
  -- All ports come first, so a register finds the addresses of each of them taken.
  obtain ⟨mid, hmid, h⟩ := bind_eq_ok h
  refine foldlM_keeps (f := addRegisterSpec) (fun bus r bus' hbus hr => ?_)
    (foldlM_keeps (f := addPortSpec _) (fun bus q bus' hbus hq => ?_) hempty hmid) h
  · unfold addRegisterSpec at hr
    split at hr
    · cases hr
    · rename_i hfree
      cases hr
      exact hregister hbus (by simpa using hfree)
  · exact hport hbus (addPortSpec_eq_ok hq).2

theorem PortEntry.isIo_ofSpec (limit : Nat) (q : PortSpec) : (PortEntry.ofSpec limit q).IsIo :=
  ⟨limit, [], rfl⟩

theorem sound_ofBoard {b : Board} (h : ofBoard b = .ok bus) : bus.Sound :=
  ofBoard_keeps sound_empty (fun hbus hadd => hbus.addPort (PortEntry.isIo_ofSpec _ _) hadd)
    (fun hbus _ => hbus.of_ports rfl) h

/-- No port answers at the address of a register. -/
theorem address_not_mem_portAddresses {b : Board} {r : RegisterSpec} (h : ofBoard b = .ok bus)
    (hr : r ∈ b.registers) : r.address ∉ bus.portAddresses := by
  obtain ⟨-, hplain, -⟩ := registers_ofBoard h
  intro hmem
  obtain ⟨p, hp, hpr⟩ := List.mem_flatMap.1 hmem
  exact PortEntry.register?_eq_none.1 (hplain r hr p hp) hpr

theorem Sound.change (h : bus.Sound) (c : Change) : (bus.change c).Sound := by
  cases c with
  | build b => exact keep_or h fun bus' hb => sound_ofBoard hb
  | addPort name ddrAddress drAddress limit inputs =>
    exact keep_or h fun bus' hadd => h.addPort ⟨limit, inputs, rfl⟩ hadd
  | removePort name => exact h.removePort name
  | mapRegister address name reset => exact h.of_ports rfl
  | write address value => exact keep_or h fun bus' hwrite => h.write hwrite
  | drive name levels => exact keep_getD h fun bus' hdrive => h.drive hdrive

theorem Sound.changeAll (h : bus.Sound) (changes : List Change) :
    (changes.foldl Bus.change bus).Sound := by
  induction changes generalizing bus with
  | nil => exact h
  | cons c changes ih => exact ih (h.change c)

theorem sound_behind (changes : List Change) : (behind changes).Sound :=
  sound_empty.changeAll changes

/-! ## Registers apart from ports -/

/-- No plain register has the address of a port. -/
def Separate (bus : Bus) : Prop :=
  ∀ a ∈ bus.portAddresses, bus.registers.isMapped a = false

theorem separate_empty : Bus.empty.Separate := by
  intro a ha
  cases ha

theorem Separate.addPort (h : bus.Separate) (hadd : bus.addPort p = .ok bus') : bus'.Separate := by
  obtain ⟨hddr, hdr, -, -⟩ := addPort_eq_ok hadd
  obtain ⟨haddresses, hregisters⟩ := portAddresses_addPort hadd
  intro a ha
  rw [haddresses, List.mem_append, PortEntry.mem_addresses] at ha
  rw [hregisters]
  rcases ha with ha | rfl | rfl
  · exact h a ha
  · exact (isMapped_eq_false.1 hddr).2
  · exact (isMapped_eq_false.1 hdr).2

theorem Separate.mapRegister (h : bus.Separate) (hfree : bus.isMapped a = false) (name : String)
    (reset : UInt8) : (bus.mapRegister a name reset).Separate := by
  intro b hb
  have hmem : b ∈ bus.portAddresses := hb
  have hne : b ≠ a := by
    rintro rfl
    exact (isMapped_eq_false.1 hfree).1 hmem
  rw [Bus.mapRegister, RegisterFile.isMapped_map, beq_false_of_ne hne]
  exact h b hmem

/-- A change that looks where it maps keeps registers and ports apart. -/
theorem Separate.change (h : bus.Separate) (hsound : bus.Sound) {c : Change}
    (hc : c.mapsRegister = false) : (bus.change c).Separate := by
  cases c with
  | build b =>
    refine keep_or h fun bus' hb => ?_
    exact ofBoard_keeps (P := Bus.Separate) separate_empty Separate.addPort
      (fun hbus hfree => hbus.mapRegister hfree _ _) hb
  | addPort name ddrAddress drAddress limit inputs => exact keep_or h fun bus' hadd => h.addPort hadd
  | removePort name =>
    intro a ha
    exact h a ((List.filter_sublist.flatMap _).subset ha)
  | mapRegister address name reset => cases hc
  | write address value =>
    refine keep_or h fun bus' hwrite a ha => ?_
    obtain ⟨haddresses, hregisters⟩ := hsound.portAddresses_write hwrite
    rw [hregisters]
    exact h a (haddresses ▸ ha)
  | drive name levels =>
    refine keep_getD h fun bus' hdrive a ha => ?_
    obtain ⟨haddresses, hregisters⟩ := portAddresses_drive? hdrive
    rw [hregisters]
    exact h a (haddresses ▸ ha)

theorem Separate.changeAll (h : bus.Separate) (hsound : bus.Sound) {changes : List Change}
    (hchanges : ∀ c ∈ changes, c.mapsRegister = false) : (changes.foldl Bus.change bus).Separate := by
  induction changes generalizing bus with
  | nil => exact h
  | cons c changes ih =>
    exact ih (h.change hsound (hchanges c List.mem_cons_self)) (hsound.change c)
      fun d hd => hchanges d (List.mem_cons_of_mem c hd)

theorem separate_behind {changes : List Change} (h : ∀ c ∈ changes, c.mapsRegister = false) :
    (behind changes).Separate :=
  separate_empty.changeAll sound_empty h

/-! ## Main theorem -/

/-- No two registers of ports have an address in common, and whoever asks about an address is told
the same: it is mapped, or it can neither be read nor written. -/
structure Consistent (bus : Bus) : Prop where
  addresses : (bus.ports.flatMap fun p => [p.ddrAddress, p.drAddress]).Nodup
  read : ∀ a, bus.isMapped a = true ↔ ∃ v, bus.read a = .ok v
  write : ∀ a v, bus.isMapped a = true ↔ ∃ bus', bus.write a v = .ok bus'
  unmapped : ∀ a, bus.isMapped a = false → bus.read a = .error (.memoryViolation a) ∧
    ∀ v, bus.write a v = .error (.memoryViolation a)

theorem Sound.consistent (h : bus.Sound) : bus.Consistent := by
  refine ⟨h.addresses, fun a => ⟨h.hasIoPorts.read_of_isMapped, ?_⟩, fun a v => ⟨fun ha => ?_, ?_⟩,
    fun a ha => ⟨read_of_not_isMapped ha, write_of_not_isMapped ha⟩⟩
  · rintro ⟨v, hv⟩
    by_contra hfree
    rw [read_of_not_isMapped (by simpa using hfree)] at hv
    cases hv
  · by_cases hport : a ∈ bus.portAddresses
    · exact ⟨_, h.write_port hport v⟩
    · obtain ⟨registers, hregisters⟩ :=
        RegisterFile.exists_write? ((isMapped_iff.1 ha).resolve_left hport) v
      exact ⟨{ bus with registers }, by rw [write_plain hport, hregisters]; rfl⟩
  · rintro ⟨bus', hbus'⟩
    by_contra hfree
    rw [write_of_not_isMapped (by simpa using hfree)] at hbus'
    cases hbus'

/-- Whatever was done to a bus, its addresses are consistent. Where plain registers were mapped with
the bus for a board only, none of them has the address of a port. -/
theorem addresses_consistent (changes : List Change) : (behind changes).Consistent ∧
    ((∀ c ∈ changes, c.mapsRegister = false) → ∀ p ∈ (behind changes).ports, ∀ a,
      a = p.ddrAddress ∨ a = p.drAddress → (behind changes).registers.isMapped a = false) := by
  refine ⟨(sound_behind changes).consistent, fun h p hp a ha => ?_⟩
  exact separate_behind h a (List.mem_flatMap.2 ⟨p, hp, PortEntry.mem_addresses.2 ha⟩)

/-- A board with a register, a port that is refused at the address of this register, and one that
takes the place of the first. -/
theorem addresses_consistent_refused :
    let changes : List Change := [.build { Board.h8_3067 with registers := [⟨"syscr", 0xFEE012, 9⟩] },
      .addPort "port_a" 0xFEE012 0xFFFFD3 4 [], .removePort "port_b",
      .addPort "port_a" Board.h8PortBDirection 0xFFFFD3 4 [.drive 0xF0], .write 0xFEE012 3]
    (∀ c ∈ changes, c.mapsRegister = false) ∧
      (behind changes).ports.map (·.name) = ["port_a"] ∧
      ∀ p ∈ (behind changes).ports, ∀ a, a = p.ddrAddress ∨ a = p.drAddress →
        (behind changes).registers.isMapped a = false :=
  ⟨by decide, by decide, (addresses_consistent _).2 (by decide)⟩

end Bus

end BlinkBench

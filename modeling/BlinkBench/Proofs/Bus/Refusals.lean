import BlinkBench.Proofs.Bus.InPlace
import BlinkBench.Proofs.Bus.Slot
/-!
# What a bus refuses

A bus refuses a port whose addresses are taken, and a write that nothing takes. It stays as it is then.
And a port that is mapped stands behind all that was there before. `refusals_exact` says so of every bus
with nothing but I/O ports and plain registers, whether the addresses on it are apart or not.
-/
namespace BlinkBench

namespace Bus

variable {bus bus' : Bus} {p : PortEntry} {a : UInt64} {v : UInt8}

/-! ## Buses with nothing but I/O ports -/

theorem isMapped_eq (bus : Bus) (a : UInt64) :
    bus.isMapped a = (bus.registers.isMapped a || (bus.portAt? a).isSome) := by
  rw [isMapped, isSome_portAt?]

/-- An I/O port stays one behind a write. -/
theorem HasIoPorts.write (h : bus.HasIoPorts) (hwrite : bus.write a v = .ok bus') :
    bus'.HasIoPorts := by
  obtain ⟨before, p, r, behind, device, hports, hdevice, rfl⟩ | ⟨registers, -, rfl⟩ :=
    write_cases hwrite
  · rw [HasIoPorts, hports] at h
    intro q hq
    rcases List.mem_append.1 hq with hq | hq
    · exact h q (List.mem_append_left _ hq)
    rcases List.mem_cons.1 hq with rfl | hq
    · obtain ⟨port, hport⟩ := h p (by simp)
      rw [hport] at hdevice
      exact ⟨_, (Except.ok.inj hdevice).symm⟩
    · exact h q (by simp [hq])
  · exact h

/-- Such a bus takes all writes where something is mapped. -/
theorem HasIoPorts.exists_write_iff (h : bus.HasIoPorts) (v : UInt8) :
    (∃ bus', bus.write a v = .ok bus') ↔ bus.isMapped a = true := by
  rw [isMapped_eq]
  cases hport : bus.portAt? a with
  | some found =>
    obtain ⟨p, r⟩ := found
    obtain ⟨before, behind, -, hwrite⟩ := write_of_portAt? hport v
    obtain ⟨port, hio⟩ := h p (mem_of_portAt? hport)
    rw [hwrite, hio, Option.isSome_some, Bool.or_true]
    exact ⟨fun _ => rfl, fun _ => ⟨_, rfl⟩⟩
  | none =>
    rw [write_plain (not_mem_of_portAt?_eq_none hport), Option.isSome_none, Bool.or_false]
    cases hmapped : bus.registers.isMapped a with
    | true =>
      obtain ⟨registers, hregisters⟩ := RegisterFile.exists_write? hmapped v
      simp [hregisters]
    | false => simp [RegisterFile.write?_of_not_isMapped hmapped]

theorem HasIoPorts.exists_write_error_iff (h : bus.HasIoPorts) (v : UInt8) :
    (∃ fault, bus.write a v = .error fault) ↔ bus.isMapped a = false := by
  rw [← Bool.not_eq_true, ← h.exists_write_iff v]
  cases bus.write a v <;> simp

/-- When a bus refuses a write and why. -/
structure AnswersWrite (bus : Bus) (a : UInt64) (v : UInt8) : Prop where
  refused : (∃ fault, bus.write a v = .error fault) ↔ bus.isMapped a = false
  fault : ∀ fault, bus.write a v = .error fault → fault = .memoryViolation a
  /-- A write in place ends with the same bus, or with the same fault. -/
  inPlace : (writeInPlace a v).run bus = atOnce bus (bus.write a v)
  /-- A bus that refuses stays as it is, with all that is on it. -/
  unchanged : ∀ fault bus', (writeInPlace a v).run bus = .error fault bus' → bus' = bus

theorem HasIoPorts.answersWrite (h : bus.HasIoPorts) (a : UInt64) (v : UInt8) :
    bus.AnswersWrite a v where
  refused := h.exists_write_error_iff v
  fault fault hfault := by
    have hfree : bus.isMapped a = false := (h.exists_write_error_iff v).1 ⟨fault, hfault⟩
    rw [write_of_not_isMapped hfree] at hfault
    exact (Except.error.inj hfault).symm
  inPlace := writeInPlace_run bus a v
  unchanged fault bus' h := atOnce_eq_error (writeInPlace_run bus a v ▸ h)

/-! ## Ports that a bus takes -/

/-- What is found on a bus behind a port that it has taken. -/
structure Gains (bus bus' : Bus) (p : PortEntry) : Prop where
  /-- The port comes last. -/
  ports : bus'.ports = bus.ports ++ [p]
  registers : bus'.registers = bus.registers
  mapped : ∀ a, bus'.isMapped a = true ↔
    bus.isMapped a = true ∨ a = p.ddrAddress ∨ a = p.drAddress
  /-- The port answers at its addresses. -/
  own : ∀ r, bus'.read (p.address r) = p.device.read r
  /-- At any other address the same port answers as before, if any. -/
  earlier : ∀ a, bus.isMapped a = true → bus'.portAt? a = bus.portAt? a ∧ bus'.read a = bus.read a
  /-- A name finds the same port as before, also where its pins are driven. -/
  named : ∀ name, (∃ q ∈ bus.ports, q.name = name) → bus'.portEntry? name = bus.portEntry? name ∧
    bus'.ioPort? name = bus.ioPort? name ∧ ∀ levels, bus'.drive? name levels =
      (bus.drive? name levels).map fun driven => { driven with ports := driven.ports ++ [p] }

theorem portAt?_push (bus : Bus) (p : PortEntry) (a : UInt64) :
    ({ bus with ports := bus.ports ++ [p] } : Bus).portAt? a =
      (bus.portAt? a).or ((p.register? a).map (p, ·)) := by
  simp only [portAt?, List.findSome?_append, List.findSome?_singleton]

/-- Pins are driven at the first port with a name, whatever comes behind it. -/
theorem drivePorts_append {name : String} {ports : List PortEntry}
    (hname : ∃ q ∈ ports, q.name = name) (levels : UInt8) (behind : List PortEntry) :
    drivePorts name levels (ports ++ behind) =
      (drivePorts name levels ports).map (· ++ behind) := by
  induction ports with
  | nil =>
    obtain ⟨q, hq, -⟩ := hname
    cases hq
  | cons q ports ih =>
    rw [List.cons_append, drivePorts, drivePorts]
    by_cases hq : q.name = name
    · cases hdevice : q.device <;> simp [hq]
    · have hrest : ∃ q ∈ ports, q.name = name := by
        obtain ⟨q', hq', heq⟩ := hname
        rcases List.mem_cons.1 hq' with rfl | hq'
        · exact absurd heq hq
        · exact ⟨q', hq', heq⟩
      simp [hq, ih hrest, Function.comp_def]

theorem gains_of_addPort (h : bus.addPort p = .ok bus') : bus.Gains bus' p := by
  obtain ⟨hddr, hdr, hne, rfl⟩ := addPort_eq_ok h
  have hfree : ∀ r, bus.isMapped (p.address r) = false := by
    rintro (_ | _)
    · exact hddr
    · exact hdr
  refine ⟨rfl, rfl, fun a => ?_, fun r => ?_, fun a ha => ?_, fun name hname => ?_⟩
  · rw [isMapped_push]
    simp only [Bool.or_eq_true, beq_iff_eq]
    tauto
  · have hnodup : p.addresses.Nodup := by simp [PortEntry.addresses, hne]
    rw [read, portAt?_push, portAt?_eq_none (isMapped_eq_false.1 (hfree r)).1,
      PortEntry.register?_address hnodup]
    rfl
  · have hnone : p.register? a = none := by
      refine PortEntry.register?_eq_none.2 fun hmem => ?_
      obtain ⟨r, hr⟩ := PortEntry.exists_register? hmem
      rw [PortEntry.register?_eq_some hr, hfree r] at ha
      cases ha
    have hsame : ({ bus with ports := bus.ports ++ [p] } : Bus).portAt? a = bus.portAt? a := by
      rw [portAt?_push, hnone, Option.map_none, Option.or_none]
    exact ⟨hsame, by rw [read, read, hsame]⟩
  · have hentry : Bus.portEntry? { bus with ports := bus.ports ++ [p] } name =
        bus.portEntry? name := by
      obtain ⟨q, hq, hqname⟩ := hname
      unfold portEntry?
      rw [List.find?_append, Option.or_of_isSome]
      exact List.find?_isSome.2 ⟨q, hq, by simp [hqname]⟩
    refine ⟨hentry, by rw [ioPort?, ioPort?, hentry], fun levels => ?_⟩
    rw [drive?, drive?, drivePorts_append hname, Option.map_map, Option.map_map]
    rfl

/-- When a bus refuses a port and why, and what it is behind one that it takes. -/
structure AnswersPort (bus : Bus) (p : PortEntry) : Prop where
  refused : (∃ fault, bus.addPort p = .error fault) ↔ bus.isMapped p.ddrAddress = true ∨
    bus.isMapped p.drAddress = true ∨ p.ddrAddress = p.drAddress
  /-- The data register is to blame only where it alone has an address that is taken. -/
  fault : ∀ fault, bus.addPort p = .error fault → fault = .addressConflict
    (if bus.isMapped p.ddrAddress = false ∧ bus.isMapped p.drAddress = true then p.drAddress
      else p.ddrAddress)
  /-- A port mapped in place ends with the same bus, or with the same fault. -/
  inPlace : (addPortInPlace p).run bus = atOnce bus (bus.addPort p)
  /-- A bus that refuses stays as it is, with all that is on it. -/
  unchanged : ∀ fault bus', (addPortInPlace p).run bus = .error fault bus' → bus' = bus
  taken : ∀ bus', bus.addPort p = .ok bus' → bus.Gains bus' p

theorem answersPort (bus : Bus) (p : PortEntry) : bus.AnswersPort p := by
  have hrun := addPortInPlace_run bus p
  have hunchanged : ∀ fault bus', (addPortInPlace p).run bus = .error fault bus' → bus' = bus :=
    fun fault bus' h => atOnce_eq_error (hrun ▸ h)
  by_cases htaken : bus.isMapped p.ddrAddress = true ∨ p.ddrAddress = p.drAddress
  · have hadd := addPort_of_taken htaken
    have hblame : ¬ (bus.isMapped p.ddrAddress = false ∧ bus.isMapped p.drAddress = true) := by
      rintro ⟨hddr, hdr⟩
      rcases htaken with h | h
      · simp [hddr] at h
      · simp [← h, hddr] at hdr
    refine ⟨⟨fun _ => by tauto, fun _ => ⟨_, hadd⟩⟩, fun fault hfault => ?_, hrun, hunchanged,
      fun bus' h => gains_of_addPort h⟩
    rw [hadd] at hfault
    rw [if_neg hblame, Except.error.inj hfault]
  · obtain ⟨hddr, hne⟩ := not_or.1 htaken
    rw [Bool.not_eq_true] at hddr
    cases hdr : bus.isMapped p.drAddress with
    | true =>
      have hadd := addPort_of_data_taken hddr hdr
      refine ⟨⟨fun _ => .inr (.inl hdr), fun _ => ⟨_, hadd⟩⟩, fun fault hfault => ?_, hrun, hunchanged,
        fun bus' h => gains_of_addPort h⟩
      rw [hadd] at hfault
      rw [if_pos ⟨hddr, hdr⟩, Except.error.inj hfault]
    | false =>
      have hadd := addPort_of_free hddr hdr hne
      refine ⟨⟨?_, ?_⟩, fun fault hfault => ?_, hrun, hunchanged, fun bus' h => gains_of_addPort h⟩
      · rintro ⟨fault, hfault⟩
        rw [hadd] at hfault
        cases hfault
      · rintro (h | h | h)
        · simp [hddr] at h
        · simp [hdr] at h
        · exact absurd h hne
      · rw [hadd] at hfault
        cases hfault

/-! ## Main theorem -/

/-- Whatever is on a bus, as long as it is I/O ports and plain registers: it refuses a port just where
the addresses of the port are not free, and a write just where nothing is mapped, and then it is the
same bus. A port that it takes comes behind all others and changes nothing for them. -/
theorem refusals_exact {bus : Bus} (hio : bus.HasIoPorts) :
    (∀ p, bus.AnswersPort p) ∧ ∀ a v, bus.AnswersWrite a v :=
  ⟨bus.answersPort, hio.answersWrite⟩

/-- A bus with a port that has a plain register behind its data register, and with a register alone. -/
def shadowedBus : Bus :=
  (h8_3067.mapRegister Board.h8PortBData "shadow" 7).mapRegister 0xFEE012 "syscr" 9

/-- A port whose data register is taken by a plain register, and a second port of one name. -/
theorem refusals_exact_shadowed : shadowedBus.HasIoPorts ∧
    (∀ fault, shadowedBus.addPort ⟨"port_a", 0xFEE009, 0xFEE012, .io .standard⟩ = .error fault →
      fault = .addressConflict 0xFEE012) ∧
    (∃ bus, shadowedBus.addPort ⟨"port_b", 0xFEE009, 0xFFFFD9, .foreign (.latch false)⟩ = .ok bus ∧
      shadowedBus.Gains bus ⟨"port_b", 0xFEE009, 0xFFFFD9, .foreign (.latch false)⟩) ∧
    ∃ fault, shadowedBus.write 0xFEE011 1 = .error fault := by
  have hio : shadowedBus.HasIoPorts := by
    rintro p hp
    obtain rfl := List.mem_singleton.1 hp
    exact ⟨_, rfl⟩
  obtain ⟨hports, hwrites⟩ := refusals_exact hio
  exact ⟨hio, (hports _).fault, ⟨_, rfl, (hports _).taken _ rfl⟩, (hwrites _ _).refused.2 (by decide)⟩

end Bus

end BlinkBench

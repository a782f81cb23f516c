import BlinkBench.Bus.Board
import BlinkBench.Port
import BlinkBench.Proofs.Folds
import BlinkBench.Proofs.RegisterFile
/-!
# What is mapped on a bus

Mapping a port or a register on a bus adds its addresses to those that are mapped, and nothing else.
A bus that is built for a board has the ports of the board, in their order.
-/
namespace BlinkBench

/-! ## Addresses that are mapped -/

theorem PortEntry.isSome_register? (p : PortEntry) (a : UInt64) :
    (p.register? a).isSome = (a == p.ddrAddress || a == p.drAddress) := by
  unfold register?
  split
  · simp_all
  · split <;> simp_all

namespace Bus

variable {bus bus' : Bus} {p : PortEntry} {a : UInt64}

theorem isMapped_empty (a : UInt64) : Bus.empty.isMapped a = false := rfl

theorem isMapped_push (bus : Bus) (p : PortEntry) (a : UInt64) :
    { bus with ports := bus.ports ++ [p] }.isMapped a =
      (a == p.ddrAddress || a == p.drAddress || bus.isMapped a) := by
  simp only [isMapped, List.any_append, List.any_cons, List.any_nil, p.isSome_register?]
  grind

theorem isMapped_mapRegister (bus : Bus) (address : UInt64) (name : String) (reset : UInt8)
    (a : UInt64) :
    (bus.mapRegister address name reset).isMapped a = (a == address || bus.isMapped a) := by
  simp only [isMapped, mapRegister, RegisterFile.isMapped_map, Bool.or_assoc]

theorem isSome_portAt? (bus : Bus) (a : UInt64) :
    (bus.portAt? a).isSome = bus.ports.any fun p => (p.register? a).isSome := by
  unfold portAt?
  induction bus.ports with
  | nil => rfl
  | cons p ports ih =>
    rw [List.findSome?_cons, List.any_cons, ← ih]
    cases p.register? a <;> rfl

/-- No device on a bus is anything but an I/O port. -/
def HasIoPorts (bus : Bus) : Prop :=
  ∀ p ∈ bus.ports, ∃ port, p.device = .io port

theorem mem_of_portAt? {r : PortRegister} (h : bus.portAt? a = some (p, r)) : p ∈ bus.ports := by
  obtain ⟨q, hq, hfound⟩ := List.exists_of_findSome?_eq_some h
  obtain ⟨s, -, heq⟩ := Option.map_eq_some_iff.1 hfound
  exact (Prod.mk.inj heq).1 ▸ hq

/-- Wherever something is mapped on a bus without other devices, it can be read. -/
theorem HasIoPorts.read_of_isMapped (hio : bus.HasIoPorts) (h : bus.isMapped a = true) :
    ∃ v, bus.read a = .ok v := by
  unfold read
  split
  · rename_i p r hport
    obtain ⟨port, hdevice⟩ := hio p (mem_of_portAt? hport)
    exact ⟨port.get r, by rw [hdevice]; rfl⟩
  · -- A register is asked only where no port answers.
    rename_i hport
    have hnone : (bus.ports.any fun p => (p.register? a).isSome) = false := by
      rw [← isSome_portAt?, hport]
      rfl
    rw [isMapped, hnone, Bool.or_false, ← RegisterFile.isSome_read?] at h
    obtain ⟨v, hv⟩ := Option.isSome_iff_exists.1 h
    exact ⟨v, by rw [hv]⟩

/-! ## Ports and registers -/

/-- Why a port cannot be mapped: the first of its addresses that is taken, or one address for both. -/
theorem addPort_of_taken
    (h : bus.isMapped p.ddrAddress = true ∨ p.ddrAddress = p.drAddress) :
    bus.addPort p = .error (.addressConflict p.ddrAddress) := by
  unfold addPort
  rcases h with h | h
  · rw [if_pos h]
  · rw [← h]
    split
    · rfl
    · rw [if_pos rfl]

theorem addPort_of_data_taken (hddr : bus.isMapped p.ddrAddress = false)
    (hdr : bus.isMapped p.drAddress = true) :
    bus.addPort p = .error (.addressConflict p.drAddress) := by
  unfold addPort
  rw [hddr, if_neg Bool.false_ne_true, if_pos hdr]

theorem addPort_of_free (hddr : bus.isMapped p.ddrAddress = false)
    (hdr : bus.isMapped p.drAddress = false) (hne : p.ddrAddress ≠ p.drAddress) :
    bus.addPort p = .ok { bus with ports := bus.ports ++ [p] } := by
  unfold addPort
  rw [hddr, hdr, if_neg Bool.false_ne_true, if_neg Bool.false_ne_true, if_neg hne]

theorem addPort_eq_ok (h : bus.addPort p = .ok bus') : bus.isMapped p.ddrAddress = false ∧
    bus.isMapped p.drAddress = false ∧ p.ddrAddress ≠ p.drAddress ∧
    bus' = { bus with ports := bus.ports ++ [p] } := by
  unfold addPort at h
  split at h
  · cases h
  · split at h
    · cases h
    · split at h
      · cases h
      · cases h
        simp_all

end Bus

/-! ## Buses for boards -/

/-- There can be room for the histories of a port of the board. -/
def Board.HasRoom (b : Board) : Prop :=
  b.historyLimit.toNat ≤ History.maxLimit

instance (b : Board) : Decidable b.HasRoom :=
  inferInstanceAs (Decidable (_ ≤ _))

namespace Bus

variable {bus bus' : Bus}

theorem addPortSpec_of_room {limit : Nat} (h : limit ≤ History.maxLimit) (bus : Bus) (q : PortSpec) :
    addPortSpec limit bus q =
      (bus.addPort (.ofSpec limit q)).mapError fun fault => .fault (.port q.id fault) := by
  rw [addPortSpec, IoPort.new?_eq, if_pos h]
  rfl

/-- Where there is no room for the histories of a port, its addresses do not matter. -/
theorem addPortSpec_of_no_room {limit : Nat} (h : ¬limit ≤ History.maxLimit) (bus : Bus)
    (q : PortSpec) : addPortSpec limit bus q = .error .abort := by
  rw [addPortSpec, IoPort.new?_eq, if_neg h]

theorem addPortSpec_eq_ok {limit : Nat} {q : PortSpec} (h : addPortSpec limit bus q = .ok bus') :
    limit ≤ History.maxLimit ∧ bus.addPort (.ofSpec limit q) = .ok bus' := by
  by_cases hroom : limit ≤ History.maxLimit
  · rw [addPortSpec_of_room hroom] at h
    exact ⟨hroom, mapError_eq_ok h⟩
  · rw [addPortSpec_of_no_room hroom] at h
    cases h

theorem ports_addPortSpec {limit : Nat} {q : PortSpec} (h : addPortSpec limit bus q = .ok bus') :
    bus'.ports = bus.ports ++ [.ofSpec limit q] := by
  rw [(addPort_eq_ok (addPortSpec_eq_ok h).2).2.2.2]

theorem ports_addRegisterSpec {r : RegisterSpec} (h : addRegisterSpec bus r = .ok bus') :
    bus'.ports = bus.ports ++ [] := by
  unfold addRegisterSpec at h
  split at h
  · cases h
  · cases h
    exact (List.append_nil _).symm

/-- Without room for the histories of its first port, no bus for a board comes to be. -/
theorem ofBoard_of_no_room {b : Board} (h : ¬b.HasRoom) (hports : b.ports ≠ []) :
    ofBoard b = .error .abort := by
  obtain ⟨p, ports, hports⟩ := List.exists_cons_of_ne_nil hports
  rw [ofBoard, hports, List.foldlM_cons, addPortSpec_of_no_room h]
  rfl

theorem ports_ofBoard {b : Board} (h : ofBoard b = .ok bus) :
    bus.ports = b.ports.map (.ofSpec b.historyLimit.toNat) := by
  obtain ⟨mid, hmid, h⟩ := bind_eq_ok h
  have hports := foldlM_collects (f := addPortSpec b.historyLimit.toNat) ports
    (fun p => [.ofSpec b.historyLimit.toNat p]) (fun _ _ _ hp => ports_addPortSpec hp) hmid
  have hregisters := foldlM_collects (f := addRegisterSpec) ports (fun _ => [])
    (fun _ _ _ hr => ports_addRegisterSpec hr) h
  rw [hregisters, hports, ← List.map_eq_flatMap, List.flatMap_eq_nil_iff.2 fun _ _ => rfl,
    List.append_nil]
  rfl

/-- Registers that are mapped one by one have addresses of their own, which were free. What is at
such an address is the register after reset, and any other one is as before. -/
theorem registers_foldlM {registers : List RegisterSpec}
    (h : registers.foldlM addRegisterSpec bus = .ok bus') : bus'.ports = bus.ports ∧
      (registers.map (·.address)).Nodup ∧
      (∀ r ∈ registers, bus.isMapped r.address = false) ∧
      ∀ a, bus'.registers.cells.find? a =
        ((registers.find? (·.address == a)).map fun r => ⟨r.name, r.reset⟩).or
          (bus.registers.cells.find? a) := by
  induction registers generalizing bus with
  | nil =>
    cases h
    simp
  | cons r registers ih =>
    rw [List.foldlM_cons] at h
    obtain ⟨mid, hr, h⟩ := bind_eq_ok h
    unfold addRegisterSpec at hr
    split at hr
    · cases hr
    · rename_i hfree
      cases hr
      obtain ⟨hports, hnodup, hrest, hfind⟩ := ih h
      simp only [isMapped_mapRegister, Bool.or_eq_false_iff, beq_eq_false_iff_ne] at hrest
      refine ⟨hports, List.nodup_cons.2 ⟨fun hmem => ?_, hnodup⟩, fun q hq => ?_, fun a => ?_⟩
      · obtain ⟨q, hq, heq⟩ := List.mem_map.1 hmem
        exact (hrest q hq).1 heq
      · rcases List.mem_cons.1 hq with rfl | hq
        · simpa using hfree
        · exact (hrest q hq).2
      · rw [hfind, mapRegister, RegisterFile.map, AscendingMap.find?_insert, List.find?_cons,
          Bool.beq_comm (a := a)]
        cases hra : r.address == a with
        | false => rfl
        | true =>
          -- No later register has the address, so the first one is found.
          have hnone : registers.find? (·.address == a) = none := by
            refine List.find?_eq_none.2 fun q hq hqa => (hrest q hq).1 ?_
            rw [eq_of_beq hqa, eq_of_beq hra]
          rw [hnone]
          rfl

/-- A bus for a board has the registers of the board after reset, and their addresses belong to them
alone. -/
theorem registers_ofBoard {b : Board} (h : ofBoard b = .ok bus) :
    (b.registers.map (·.address)).Nodup ∧
      (∀ r ∈ b.registers, ∀ p ∈ bus.ports, p.register? r.address = none) ∧
      ∀ a, bus.registers.cells.find? a =
        (b.registers.find? (·.address == a)).map fun r => ⟨r.name, r.reset⟩ := by
  obtain ⟨mid, hmid, h⟩ := bind_eq_ok h
  obtain ⟨hports, hnodup, hfree, hfind⟩ := registers_foldlM h
  have hempty : mid.registers = .empty :=
    foldlM_keeps (P := fun bus => bus.registers = .empty) (fun bus p bus' hbus hp => by
      obtain ⟨-, -, -, rfl⟩ := addPort_eq_ok (addPortSpec_eq_ok hp).2
      exact hbus) rfl hmid
  refine ⟨hnodup, fun r hr p hp => ?_, fun a => ?_⟩
  · have hany := (Bool.or_eq_false_iff.1 (hfree r hr)).2
    rw [hports] at hp
    simpa using List.any_eq_false.1 hany p hp
  · rw [hfind, hempty]
    exact Option.or_none

end Bus

end BlinkBench

import BlinkBench.Proofs.Bus.Changes
import BlinkBench.Proofs.Manifest.Verdict
import BlinkBench.Proofs.Snapshot
/-!
# Buses for boards

A bus that is built for a board has what the board declares and nothing else. `ofBoard_faithful` says
so of every board, whether or not it passes any check: there is a bus exactly where all addresses
differ and the ports have room for their histories, and otherwise the first port or register that cannot
be mapped is named.
-/
namespace BlinkBench

/-! ## What stands in the way -/

/-- What keeps a port from being mapped: there may be no room for its histories, its addresses may be
taken by ports before it, first the one and then the other, or be the same. -/
def PortSpec.conflicts (limit : Nat) (before : List PortSpec) (p : PortSpec) :
    List (Check (Failure MapFault)) :=
  [⟨¬limit ≤ History.maxLimit, .abort⟩,
    ⟨∃ q ∈ before, q.Uses p.ddrAddress, .fault (.port p.id (.addressConflict p.ddrAddress))⟩,
    ⟨∃ q ∈ before, q.Uses p.drAddress, .fault (.port p.id (.addressConflict p.drAddress))⟩,
    ⟨p.ddrAddress = p.drAddress, .fault (.port p.id (.addressConflict p.ddrAddress))⟩]

/-- What keeps a register from being mapped: a port or a register before it may have its address. -/
def RegisterSpec.conflicts (ports : List PortSpec) (before : List RegisterSpec) (r : RegisterSpec) :
    List (Check (Failure MapFault)) :=
  [⟨(∃ q ∈ ports, q.Uses r.address) ∨ ∃ q ∈ before, q.address = r.address,
    .fault (.register r.name r.address)⟩]

/-- All that may keep a bus for a board from being built, in order. -/
def Board.conflicts (b : Board) : List (Check (Failure MapFault)) :=
  b.checklist (PortSpec.conflicts b.historyLimit.toNat) (RegisterSpec.conflicts b.ports)

namespace Bus

variable {bus bus' : Bus} {limit : Nat} {b : Board}

/-- What is mapped on a bus with some ports and nothing else. -/
def MapsPorts (before : List PortSpec) (bus : Bus) : Prop :=
  ∀ a, bus.isMapped a = true ↔ ∃ q ∈ before, q.Uses a

/-- What is mapped on a bus with all ports and some registers. -/
def MapsRegisters (ports : List PortSpec) (before : List RegisterSpec) (bus : Bus) : Prop :=
  ∀ a, bus.isMapped a = true ↔ (∃ q ∈ ports, q.Uses a) ∨ ∃ q ∈ before, q.address = a

theorem addPortSpec_error {p : PortSpec} {fault : Fault} (hroom : limit ≤ History.maxLimit)
    (h : bus.addPort (.ofSpec limit p) = .error fault) :
    addPortSpec limit bus p = .error (.fault (.port p.id fault)) := by
  rw [addPortSpec_of_room hroom, h]
  rfl

theorem madeBy_addPortSpec (limit : Nat) :
    Check.MadeBy (PortSpec.conflicts limit) (addPortSpec limit) MapsPorts where
  verdict := by
    intro before p bus hmapped
    by_cases hroom : limit ≤ History.maxLimit
    case neg =>
      rw [addPortSpec_of_no_room hroom]
      exact Check.verdict_of_violated hroom _
    refine Check.Verdict.cons (not_not.2 hroom) ?_
    by_cases hddr : bus.isMapped p.ddrAddress = true
    · rw [addPortSpec_error hroom (addPort_of_taken (.inl hddr))]
      exact Check.verdict_of_violated ((hmapped _).1 hddr) _
    refine Check.Verdict.cons (mt (hmapped _).2 hddr) ?_
    have hddr := Bool.eq_false_iff.2 hddr
    by_cases hdr : bus.isMapped p.drAddress = true
    · rw [addPortSpec_error hroom (addPort_of_data_taken hddr hdr)]
      exact Check.verdict_of_violated ((hmapped _).1 hdr) _
    refine Check.Verdict.cons (mt (hmapped _).2 hdr) ?_
    by_cases hsame : p.ddrAddress = p.drAddress
    · rw [addPortSpec_error hroom (addPort_of_taken (.inr hsame))]
      exact Check.verdict_of_violated hsame _
    refine Check.Verdict.cons hsame ?_
    rw [addPortSpec_of_room hroom, addPort_of_free hddr (Bool.eq_false_iff.2 hdr) hsame]
    exact Check.verdict_nil _
  seen := by
    intro before p bus bus' hmapped h a
    obtain ⟨-, -, -, rfl⟩ := addPort_eq_ok (addPortSpec_eq_ok h).2
    rw [isMapped_push]
    simp only [Bool.or_eq_true, beq_iff_eq, hmapped a, List.mem_append, PortSpec.Uses,
      PortEntry.ofSpec]
    grind

theorem madeBy_addRegisterSpec (ports : List PortSpec) :
    Check.MadeBy (RegisterSpec.conflicts ports) addRegisterSpec (MapsRegisters ports) where
  verdict := by
    intro before r bus hmapped
    unfold addRegisterSpec
    split
    · exact Check.verdict_of_violated ((hmapped _).1 ‹_›) _
    exact Check.Verdict.cons (mt (hmapped _).2 ‹_›) (Check.verdict_nil _)
  seen := by
    intro before r bus bus' hmapped h a
    unfold addRegisterSpec at h
    split at h
    · cases h
    · cases h
      rw [isMapped_mapRegister]
      simp only [Bool.or_eq_true, beq_iff_eq, hmapped a, List.mem_append]
      grind

theorem verdict_ofBoard (b : Board) : Check.Verdict b.conflicts (ofBoard b) := by
  rw [ofBoard_eq]
  refine Board.verdict_build (madeBy_addPortSpec _) (madeBy_addRegisterSpec b.ports) ?_ ?_
  · intro a
    simp [isMapped_empty]
  · intro bus hmapped a
    rw [id, hmapped a]
    simp

theorem unconflicted_iff (b : Board) :
    (∀ c ∈ b.conflicts, ¬ c.violated) ↔ b.addresses.Nodup ∧ (b.ports ≠ [] → b.HasRoom) := by
  have hroom : (∀ e ∈ eachBehind b.ports, b.HasRoom) ↔ (b.ports ≠ [] → b.HasRoom) := by
    rw [forall_eachBehind (P := fun _ => b.HasRoom)]
    constructor
    · intro h hports
      obtain ⟨p, hp⟩ := List.exists_mem_of_ne_nil _ hports
      exact h p hp
    · intro h p hp
      exact h (List.ne_nil_of_mem hp)
  rw [Board.conflicts, Board.forall_mem_checklist, Board.nodup_addresses_iff, ← hroom]
  simp only [PortSpec.conflicts, RegisterSpec.conflicts, List.forall_mem_cons, List.not_mem_nil,
    not_not, Board.HasRoom]
  grind

end Bus

/-! ## What is there -/

/-- A port whose pins are all inputs, to which nothing was written. It keeps one write at least. -/
structure IoPort.IsReset (limit : Nat) (port : IoPort) : Prop where
  ddr : port.ddr = 0
  dr : port.dr = 0
  input : port.input = 0
  output : port.output = 0
  dataWrites : port.dataWrites.recent = [] ∧ port.dataWrites.total = 0
  outputs : port.outputs.recent = [] ∧ port.outputs.total = 0
  limits : port.dataWrites.limit = max limit 1 ∧ port.outputs.limit = max limit 1

theorem IoPort.isReset_new (limit : Nat) : (new limit).IsReset limit :=
  have hrecent : (History.new limit).recent = [] := by simp [History.recent, History.new]
  ⟨rfl, rfl, rfl, rfl, ⟨hrecent, rfl⟩, ⟨hrecent, rfl⟩, rfl, rfl⟩

/-- A port as it is declared, after reset. -/
structure PortEntry.Is (e : PortEntry) (limit : Nat) (p : PortSpec) : Prop where
  name : e.name = p.id
  ddrAddress : e.ddrAddress = p.ddrAddress
  drAddress : e.drAddress = p.drAddress
  device : ∃ port, e.device = .io port ∧ port.IsReset limit

/-- A bus with all that a board declares, and nothing else. -/
structure Bus.Holds (bus : Bus) (b : Board) : Prop where
  /-- The ports are those of the board, in their order. -/
  ports : List.Forall₂ (fun e p => e.Is b.historyLimit.toNat p) bus.ports b.ports
  registers : bus.registers.toList.Perm (b.registers.map fun r => (r.address, ⟨r.name, r.reset⟩))
  read_port : ∀ p ∈ b.ports, ∀ a, p.Uses a → bus.read a = .ok 0
  read_register : ∀ r ∈ b.registers, bus.read r.address = .ok r.reset
  read_other : ∀ a, a ∉ b.addresses → bus.read a = .error (.memoryViolation a)
  /-- The port found under the name of the driven one is the one that the board means. -/
  driven : (bus.portEntry? b.driverPort).map (fun e => (e.ddrAddress, e.drAddress)) =
    b.drivenPort?.map fun p => (p.ddrAddress, p.drAddress)

namespace Bus

variable {bus : Bus} {b : Board}

theorem portAddresses_ofBoard (h : ofBoard b = .ok bus) : bus.portAddresses = b.portAddresses := by
  rw [portAddresses, ports_ofBoard h, List.flatMap_map, Board.portAddresses]
  rfl

theorem registers_perm (h : ofBoard b = .ok bus) :
    bus.registers.toList.Perm (b.registers.map fun r => (r.address, ⟨r.name, r.reset⟩)) := by
  obtain ⟨hnodup, -, hfind⟩ := registers_ofBoard h
  have hdeclared : (b.registers.map fun r => (r.address, (⟨r.name, r.reset⟩ : Register))).Nodup := by
    refine List.Nodup.of_map (·.1) ?_
    rwa [List.map_map]
  refine (List.perm_ext_iff_of_nodup bus.registers.cells.nodup_entries hdeclared).2 fun e => ?_
  rw [AscendingMap.mem_entries, hfind, List.mem_map, Option.map_eq_some_iff]
  constructor
  · rintro ⟨r, hr, hcell⟩
    have haddress : r.address = e.1 := by simpa using List.find?_some hr
    exact ⟨r, List.mem_of_find?_eq_some hr, Prod.ext haddress hcell⟩
  · rintro ⟨r, hr, rfl⟩
    exact ⟨r, find?_key_of_mem RegisterSpec.address hnodup hr, rfl⟩

theorem holds_ofBoard (h : ofBoard b = .ok bus) : bus.Holds b where
  ports := by
    rw [ports_ofBoard h, List.forall₂_map_left_iff, List.forall₂_same]
    intro p _
    exact ⟨rfl, rfl, rfl, _, rfl, IoPort.isReset_new _⟩
  registers := registers_perm h
  read_port p hp a ha := by
    have hentry : PortEntry.ofSpec b.historyLimit.toNat p ∈ bus.ports := by
      rw [ports_ofBoard h]
      exact List.mem_map_of_mem hp
    rcases ha with rfl | rfl
    · exact (sound_ofBoard h).read_port hentry .direction
    · exact (sound_ofBoard h).read_port hentry .data
  read_register r hr := by
    obtain ⟨hnodup, -, hfind⟩ := registers_ofBoard h
    rw [read_plain (address_not_mem_portAddresses h hr), RegisterFile.read?, hfind,
      find?_key_of_mem RegisterSpec.address hnodup hr]
    rfl
  read_other a ha := by
    obtain ⟨-, -, hfind⟩ := registers_ofBoard h
    rw [Board.addresses, List.mem_append, not_or] at ha
    have hnone : b.registers.find? (·.address == a) = none := by
      refine List.find?_eq_none.2 fun r hr hra => ha.2 (List.mem_map.2 ⟨r, hr, by simpa using hra⟩)
    rw [read_plain (portAddresses_ofBoard h ▸ ha.1), RegisterFile.read?, hfind, hnone]
    rfl
  driven := by
    rw [portEntry?_ofBoard h, Option.map_map]
    rfl

/-- A port with two addresses, and histories that are longer than there can be. -/
def endlessBoard : Board where
  name := "endless"
  ports := [⟨"port_b", 1, 2⟩]
  registers := []
  driverPort := "port_b"
  historyLimit := 0xFFFFFFFFFFFFFFFF

/-- That all addresses of a board differ does not do: there also has to be room. -/
theorem no_bus_endless : endlessBoard.addresses.Nodup ∧ ¬ ∃ bus, ofBoard endlessBoard = .ok bus := by
  refine ⟨by decide, ?_⟩
  rintro ⟨bus, hbus⟩
  have habort : ofBoard endlessBoard = .error .abort := rfl
  rw [habort] at hbus
  cases hbus

/-- There is a bus for a board exactly where all addresses of the board differ and its ports have room
for their histories, and it has what the board declares and nothing else. Otherwise the first thing that
cannot be mapped is named, with the first of its addresses that is taken, or the program ends at the
first port. -/
theorem ofBoard_faithful (b : Board) :
    ((∃ bus, ofBoard b = .ok bus) ↔ b.addresses.Nodup ∧ (b.ports ≠ [] → b.HasRoom)) ∧
      (∀ bus, ofBoard b = .ok bus → bus.Holds b) ∧ Check.Verdict b.conflicts (ofBoard b) := by
  have hverdict := verdict_ofBoard b
  exact ⟨hverdict.ok_iff.trans (unconflicted_iff b), fun bus h => holds_ofBoard h, hverdict⟩

/-- A board that passes no check: its ports share an identifier, its registers share a name, and nothing
is to be kept of what is written. -/
def twinBoard : Board where
  name := "twins"
  ports := [⟨"port_b", 1, 2⟩, ⟨"port_b", 4, 3⟩]
  registers := [⟨"led", 9, 7⟩, ⟨"led", 5, 1⟩]
  driverPort := "port_b"
  historyLimit := 0

/-- All its addresses differ, so there is a bus for it, on which the first port is the driven one. -/
theorem ofBoard_faithful_twins : ∃ bus, ofBoard twinBoard = .ok bus ∧ bus.Holds twinBoard ∧
    bus.read 9 = .ok 7 ∧
    (bus.portEntry? "port_b").map (fun e => (e.ddrAddress, e.drAddress)) = some (1, 2) :=
  have ⟨bus, hbus⟩ := (ofBoard_faithful twinBoard).1.2 (by decide)
  have hholds := (ofBoard_faithful twinBoard).2.1 bus hbus
  ⟨bus, hbus, hholds, hholds.read_register ⟨"led", 9, 7⟩ (by decide), hholds.driven⟩

end Bus

end BlinkBench

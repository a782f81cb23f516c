import BlinkBench.Proofs.Blinker.Alternation
import BlinkBench.Proofs.Blinker.Parts
import BlinkBench.Proofs.Bus.Changes
import BlinkBench.Proofs.Bus.Slot
import BlinkBench.Proofs.IoPort.Outputs
/-!
# A blinker among other ports

A blinker that is attached to one port of a bus changes this port alone, and what it makes of it does not
depend on what the port was like before. `driving_isolated` says so of every bus and of every list of
operations.
-/
namespace BlinkBench

/-! ## The writes of a fresh blinker -/

theorem length_writes (writes : List PortWrite) : writes.length =
    (valuesOf .direction writes).length + (valuesOf .data writes).length := by
  induction writes with
  | nil => rfl
  | cons w writes ih =>
    obtain ⟨_ | _, v⟩ := w <;> simp [ih] <;> omega

/-- What the operations of a fresh blinker have made of an I/O port. -/
structure IoPort.Driven (io io' : IoPort) (b : Blinker) (writes : List PortWrite) : Prop where
  toggles : b.toggles = UInt64.ofNat (valuesOf .data writes).length
  dataTotal : io'.dataWrites.total = io.dataWrites.total + b.toggles
  outputTotal : io'.outputs.total =
    io.outputs.total + UInt64.ofNat (valuesOf .direction writes).length + b.toggles
  ddr : b.initialized = true → io'.ddr = 0xFF
  /-- Behind a toggle the port shows the pattern that was written last, at all pins. -/
  shown : ∀ v, (valuesOf .data writes).getLast? = some v →
    b.state.map PinState.pattern = some v ∧ io'.dr = v ∧ io'.output = v

theorem Blinker.Writes.driven {b : Blinker} {ops : List Operation} {writes : List PortWrite} {n : Nat}
    (h : ({} : Blinker).Writes b ops writes n)
    (hinitialized : b.initialized = ops.any Operation.settles) {io : IoPort} (hio : io.Settled) :
    io.Driven (writes.foldl IoPort.set io) b writes := by
  have htoggles : b.toggles = UInt64.ofNat (valuesOf .data writes).length := by
    rw [h.toggles, h.data, PinState.length_patterns]
    exact UInt64.zero_add _
  obtain ⟨hddr, hdr⟩ :=
    IoPort.foldl_set_of_head io (fun _ => h.direction_value) (h.first rfl)
  obtain ⟨hdata, houtputs⟩ := IoPort.totals_foldl_set io writes
  have hoperated : b.initialized = true → writes ≠ [] := by
    rintro hb rfl
    have hpos := directionCount_false_pos (hinitialized ▸ hb)
    have hnone := congrArg List.length h.direction
    rw [List.length_replicate] at hnone
    exact absurd hnone (Nat.ne_of_lt hpos)
  refine ⟨htoggles, by rw [hdata, htoggles], ?_, fun hb => hddr (hoperated hb), ?_⟩
  · rw [houtputs, length_writes, UInt64.ofNat_add, ← UInt64.add_assoc, htoggles]
  · intro v hv
    have hne : writes ≠ [] := by
      rintro rfl
      cases hv
    have hsettled : _ = _ := IoPort.settled_foldl_set hio writes
    refine ⟨?_, hdr v hv, ?_⟩
    · rw [h.state, ← hv, h.data]
      exact (PinState.getLast?_patterns_none n).symm
    · rw [hsettled, hddr hne, hdr v hv, IoPort.and_outputDirection]

namespace Bus

/-! ## Main theorem -/

/-- Whatever was done to a bus, and whichever of its ports a fresh blinker is attached to by name, the
first port with this name is the only thing on the bus that its operations change. -/
theorem driving_isolated (changes : List Change) {name : String}
    (hname : ∃ p ∈ (behind changes).ports, p.name = name) :
    ∃ before p after io, (behind changes).ports = before ++ p :: after ∧ p.name = name ∧
      (∀ q ∈ before, q.name ≠ name) ∧ p.device = .io io ∧
      BusPort.attach (behind changes) name =
        .ok ⟨behind changes, p.ddrAddress, p.drAddress⟩ ∧
      ∀ {ω : Type} [Environment ω] {port : ω → Port}, Part port Port.act →
        ∀ {world : ω} {fuel : Nat} {ops : List Operation} {s : Setting ω} {replies : List Reply},
          port world = .bus ⟨behind changes, p.ddrAddress, p.drAddress⟩ →
          (⟨{}, world⟩ : Setting ω).operateAll? fuel ops = some (s, replies) →
          ∃ actions io', (⟨{}, ⟨world, []⟩⟩ : Setting (Recorded ω)).operateAll? fuel ops =
              some (⟨s.blinker, ⟨s.world, actions⟩⟩, replies) ∧
            port s.world = .bus ⟨{ behind changes with
              ports := before ++ { p with device := .io io' } :: after },
              p.ddrAddress, p.drAddress⟩ ∧
            io.Driven io' s.blinker (portWrites actions) := by
  obtain ⟨q, hq, hqname⟩ := hname
  obtain ⟨p, hp⟩ : ∃ p, Bus.portEntry? (behind changes) name = some p := by
    rw [← Option.isSome_iff_exists, portEntry?, List.find?_isSome]
    exact ⟨q, hq, by simp [hqname]⟩
  obtain ⟨hpname, before, after, hports, hbefore⟩ := List.find?_eq_some_iff_append.1 hp
  obtain ⟨slot, io, hslot, hentry, hafter, hbus, hio, hsettled⟩ :=
    (sound_behind changes).exists_slot hports
  subst hslot hentry hafter
  refine ⟨slot.before, slot.entry, slot.behind, io, hports, by simpa using hpname,
    fun q hq => by simpa using hbefore q hq, hio, ?_, ?_⟩
  · rw [BusPort.attach, hp]
    show BusPort.attachAt (behind changes) (slot.entry.address .direction)
      (slot.entry.address .data) = _
    rw [hbus, BusPort.attachAt, slot.read, slot.read]
    rfl
  · intro ω _ port hpart world fuel ops s replies hport hops
    obtain ⟨actions, hrecorded⟩ := Recorded.operateAll? hops
    obtain ⟨n, hwrites⟩ := Setting.recorded_writes hrecorded
    refine ⟨actions, _, hrecorded, ?_,
      hwrites.driven (Setting.operateAll?_initialized hops) hsettled⟩
    -- The port in the world gets the writes on the record, and hands them to its place on the bus.
    have hattached : port world = .bus (slot.port io) := by
      rw [hport, hbus]
      rfl
    have hport' := hpart.of_operateAll? hrecorded
    rw [hattached, Port.foldl_act, Port.foldl_bus, slot.writeAll] at hport'
    rw [hbus]
    exact hport'

/-- Two ports and a register, behind a write to the one port and with the other one driven. -/
def pairChanges : List Change :=
  [.build { Board.h8_3067 with
      ports := [⟨"port_a", 0xFEE009, 0xFFFFD9⟩, ⟨"port_b", 0xFEE00A, 0xFFFFDA⟩]
      registers := [⟨"syscr", 0xFEE012, 9⟩] },
    .write 0xFEE009 0x0F, .drive "port_b" 0xA5]

/-- A bench with a port on a bus. -/
def benchOn (port : BusPort) : Bench where
  port := .bus port
  delay := .idle 0

/-- A run of three toggles on a port that is driven from outside. -/
theorem driving_isolated_pair : (∃ p ∈ (behind pairChanges).ports, p.name = "port_b") ∧
    ∃ before p after io, (behind pairChanges).ports = before ++ p :: after ∧ p.device = .io io ∧
      ∃ s replies actions io', (⟨{}, benchOn ⟨behind pairChanges, p.ddrAddress, p.drAddress⟩⟩ :
          Setting Bench).operateAll? 0 [.pause, .runBounded 3] = some (s, replies) ∧
        s.world.port = .bus ⟨{ behind pairChanges with
          ports := before ++ { p with device := .io io' } :: after }, p.ddrAddress, p.drAddress⟩ ∧
        io.Driven io' s.blinker (portWrites actions) := by
  have hname : ∃ p ∈ (behind pairChanges).ports, p.name = "port_b" := by decide
  obtain ⟨before, p, after, io, hports, -, -, hio, -, hall⟩ := driving_isolated pairChanges hname
  obtain ⟨s, replies, hops⟩ : ∃ s replies,
      (⟨{}, benchOn ⟨behind pairChanges, p.ddrAddress, p.drAddress⟩⟩ : Setting Bench).operateAll? 0
        [.pause, .runBounded 3] = some (s, replies) := ⟨_, _, rfl⟩
  obtain ⟨actions, io', -, hport, hdriven⟩ := hall Bench.port_part rfl hops
  exact ⟨hname, before, p, after, io, hports, hio, s, replies, actions, io', hops, hport, hdriven⟩

end Bus

end BlinkBench

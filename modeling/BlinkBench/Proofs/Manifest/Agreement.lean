import BlinkBench.Cli.Plan
import BlinkBench.Proofs.Bus.Mapping
import BlinkBench.Proofs.Manifest.Checks
/-!
# The checks foretell the bus

The checks on a manifest and the building of a bus look for conflicts of addresses in ways of their
own: the ones keep a list of the addresses used so far, the other asks the unfinished bus. Up to any
part of a board both know the same addresses, so they stop at the same part. The checks do not ask
whether there can be room for the histories of the ports, and the building needs it.
-/
namespace BlinkBench

/-! ## Parts of a board -/

/-- A part of a board, behind those of its kind that are declared before it. -/
inductive Board.Part where
  | port (before : List PortSpec) (p : PortSpec)
  | register (before : List RegisterSpec) (r : RegisterSpec)

namespace Board

/-- Whether a board has a part. -/
def Part.IsIn (b : Board) : Part → Prop
  | .port before p => before ++ [p] <+: b.ports
  | .register before r => before ++ [r] <+: b.registers

/-- A board up to a part. -/
def cutBefore (b : Board) : Part → Board
  | .port before _ => { b with ports := before, registers := [] }
  | .register before _ => { b with registers := before }

/-- A board up to a part and with it. -/
def cutBehind (b : Board) : Part → Board
  | .port before p => { b with ports := before ++ [p], registers := [] }
  | .register before r => { b with registers := before ++ [r] }

/-- That a part cannot be mapped at an address that is taken. -/
def Part.conflict (address : UInt64) : Part → MapFault
  | .port _ p => .port p.id (.addressConflict address)
  | .register _ r => .register r.name address

/-- Whoever goes through a board stops at a part: all that comes before it is fine, and with it they
fail. What comes behind it makes no difference. -/
structure StopsAt {α ε : Type} (b : Board) (check : Board → Except ε α) (part : Part) (e : ε) :
    Prop where
  isIn : part.IsIn b
  before : ∃ a, check (b.cutBefore part) = .ok a
  there : check (b.cutBehind part) = .error e
  whole : check b = .error e

/-! ## Going through a board -/

/-- Goes through the ports and then the registers of a board, step by step. -/
def build {σ τ α ε : Type} (port : σ → PortSpec → Except ε σ)
    (register : τ → RegisterSpec → Except ε τ) (turn : σ → τ) (close : τ → α) (s : σ) (b : Board) :
    Except ε α := do
  let s ← b.ports.foldlM port s
  let t ← b.registers.foldlM register (turn s)
  return close t

section Build

variable {σ τ α ε : Type} {port : σ → PortSpec → Except ε σ}
  {register : τ → RegisterSpec → Except ε τ} {turn : σ → τ} {close : τ → α} {s s' : σ} {t : τ}
  {b : Board} {e : ε}

theorem build_of_ports_error (h : b.ports.foldlM port s = .error e) :
    b.build port register turn close s = .error e := by
  unfold build
  rw [h]
  rfl

theorem build_of_ports (h : b.ports.foldlM port s = .ok s') :
    b.build port register turn close s =
      b.registers.foldlM register (turn s') >>= fun t => pure (close t) := by
  unfold build
  rw [h]
  rfl

/-- A step that fails with a port stops whoever takes it. -/
theorem stopsAt_port {before behind : List PortSpec} {p : PortSpec}
    (hports : b.ports = before ++ p :: behind) (hbefore : before.foldlM port s = .ok s')
    (hp : port s' p = .error e) :
    b.StopsAt (build port register turn close s) (.port before p) e := by
  have hthere : (before ++ [p]).foldlM port s = .error e := by rw [foldlM_snoc hbefore, hp]
  have hsplit : b.ports = before ++ [p] ++ behind := by simp [hports]
  refine ⟨⟨behind, hsplit.symm⟩, ⟨close (turn s'), ?_⟩, build_of_ports_error hthere,
    build_of_ports_error ?_⟩
  · rw [cutBefore, build_of_ports hbefore]
    rfl
  · rw [hsplit]
    exact foldlM_append_error hthere

/-- A step that fails with a register stops whoever takes it. -/
theorem stopsAt_register {before behind : List RegisterSpec} {r : RegisterSpec}
    (hports : b.ports.foldlM port s = .ok s') (hregisters : b.registers = before ++ r :: behind)
    (hbefore : before.foldlM register (turn s') = .ok t) (hr : register t r = .error e) :
    b.StopsAt (build port register turn close s) (.register before r) e := by
  have hthere : (before ++ [r]).foldlM register (turn s') = .error e := by
    rw [foldlM_snoc hbefore, hr]
  have hsplit : b.registers = before ++ [r] ++ behind := by simp [hregisters]
  have hcut : ∀ registers, build port register turn close s { b with registers } =
      registers.foldlM register (turn s') >>= fun t => pure (close t) :=
    fun registers => build_of_ports hports
  refine ⟨⟨behind, hsplit.symm⟩, ⟨close t, ?_⟩, ?_, ?_⟩
  · rw [cutBefore, hcut, hbefore]
    rfl
  · rw [cutBehind, hcut, hthere]
    rfl
  · rw [build_of_ports hports, hsplit, foldlM_append_error hthere]
    rfl

end Build

end Board

/-! ## The two ways through a board -/

theorem Board.check_eq : Board.check =
    Board.build checkPort checkRegister (·.2) (fun _ => ()) ([], []) := by
  funext b
  rw [check, checkPorts_eq, build]
  cases b.ports.foldlM checkPort ([], []) with
  | error e => rfl
  | ok seen => exact checkRegisters_eq seen.2 b.registers

theorem Bus.ofBoard_eq (b : Board) : ofBoard b =
    b.build (addPortSpec b.historyLimit.toNat) addRegisterSpec id id empty := by
  rw [ofBoard, Board.build]
  simp

/-! ## Side by side -/

/-- The addresses used so far are those that are mapped on a bus. -/
def Bus.Covers (used : List UInt64) (bus : Bus) : Prop :=
  ∀ a, a ∈ used ↔ bus.isMapped a = true

namespace Bus

variable {bus : Bus} {seen seen' : List String × List UInt64} {used used' : List UInt64}
  {p : PortSpec} {r : RegisterSpec} {e : ManifestFault} {limit : Nat}
  (hroom : limit ≤ History.maxLimit)

theorem Covers.not_mem {a : UInt64} (h : Covers used bus) (ha : a ∉ used) :
    bus.isMapped a = false := by
  rw [h a] at ha
  simpa using ha

theorem covers_empty : Covers [] empty := by
  intro a
  simp [isMapped_empty]

include hroom in
theorem Covers.port (h : Covers seen.2 bus) (hp : checkPort seen p = .ok seen') :
    ∃ bus', addPortSpec limit bus p = .ok bus' ∧ Covers seen'.2 bus' := by
  obtain ⟨-, hne, hddr, hdr, rfl⟩ := checkPort_eq_ok hp
  refine ⟨{ bus with ports := bus.ports ++ [.ofSpec limit p] }, ?_, fun a => ?_⟩
  · rw [addPortSpec_of_room hroom, addPort_of_free (h.not_mem hddr) (h.not_mem hdr) hne]
    rfl
  · rw [isMapped_push]
    have hcover := h a
    simp only [PortEntry.ofSpec]
    grind

include hroom in
/-- A port in conflict with what comes before it is not mapped, and the conflict is at the address
that the check has found. -/
theorem Covers.port_conflict (h : Covers seen.2 bus) (hp : checkPort seen p = .error e) :
    (∀ a, e = .duplicateAddress a →
      addPortSpec limit bus p = .error (.fault (.port p.id (.addressConflict a)))) ∧
    ∀ id, e = .overlappingRegisters id → p.id = id ∧ p.ddrAddress = p.drAddress ∧
      addPortSpec limit bus p = .error (.fault (.port id (.addressConflict p.ddrAddress))) := by
  have hadd : ∀ a, bus.addPort (.ofSpec limit p) = .error (.addressConflict a) →
      addPortSpec limit bus p = .error (.fault (.port p.id (.addressConflict a))) := by
    intro a ha
    rw [addPortSpec_of_room hroom, ha]
    rfl
  unfold checkPort at hp
  split at hp
  · cases hp
    exact ⟨nofun, nofun⟩
  · split at hp
    · rename_i hsame
      cases hp
      refine ⟨nofun, fun id he => ?_⟩
      cases he
      exact ⟨rfl, hsame, hadd _ (addPort_of_taken (.inr hsame))⟩
    · split at hp
      · rename_i hddr
        cases hp
        refine ⟨fun a he => ?_, nofun⟩
        cases he
        exact hadd _ (addPort_of_taken (.inl ((h _).1 hddr)))
      · split at hp
        · rename_i hddr hdr
          cases hp
          refine ⟨fun a he => ?_, nofun⟩
          cases he
          exact hadd _ (addPort_of_data_taken (h.not_mem hddr) ((h _).1 hdr))
        · cases hp

theorem Covers.register (h : Covers used bus) (hr : checkRegister used r = .ok used') :
    ∃ bus', addRegisterSpec bus r = .ok bus' ∧ Covers used' bus' := by
  unfold checkRegister at hr
  split at hr
  · cases hr
  · rename_i hfree
    cases hr
    refine ⟨bus.mapRegister r.address r.name r.reset, ?_, fun a => ?_⟩
    · rw [addRegisterSpec, h.not_mem hfree, if_neg Bool.false_ne_true]
    · rw [isMapped_mapRegister]
      have hcover := h a
      grind

theorem Covers.register_conflict (h : Covers used bus) (hr : checkRegister used r = .error e) :
    e = .duplicateAddress r.address ∧
      addRegisterSpec bus r = .error (.fault (.register r.name r.address)) := by
  unfold checkRegister at hr
  split at hr
  · rename_i hused
    cases hr
    refine ⟨rfl, ?_⟩
    rw [addRegisterSpec, (h _).1 hused, if_pos rfl]
  · cases hr

include hroom in
theorem covers_ports {ports : List PortSpec}
    (h : ports.foldlM checkPort ([], []) = .ok seen) :
    ∃ bus, ports.foldlM (addPortSpec limit) empty = .ok bus ∧ Covers seen.2 bus :=
  foldlM_simulates (R := fun seen bus => Covers seen.2 bus) (fun _ _ _ _ hR hp => hR.port hroom hp)
    covers_empty h

theorem Covers.registers {registers : List RegisterSpec} (h : Covers used bus)
    (hr : registers.foldlM checkRegister used = .ok used') :
    ∃ bus', registers.foldlM addRegisterSpec bus = .ok bus' ∧ Covers used' bus' :=
  foldlM_simulates (g := addRegisterSpec) (R := Covers) (fun _ _ _ _ hR hr => hR.register hr) h hr

end Bus

namespace Board

variable {b : Board}

/-- There is a bus for a board that passes the check and has room, and both addresses of every port of
the board are mapped on it. -/
theorem ofBoard_of_check (hroom : b.HasRoom) (h : b.check = .ok ()) : ∃ bus, Bus.ofBoard b = .ok bus ∧
    ∀ p ∈ b.ports, bus.isMapped p.ddrAddress = true ∧ bus.isMapped p.drAddress = true := by
  rw [check_eq] at h
  obtain ⟨seen, hports, h⟩ := bind_eq_ok h
  obtain ⟨used, hregisters, -⟩ := bind_eq_ok h
  obtain ⟨mid, hmid, hcover⟩ := Bus.covers_ports hroom hports
  obtain ⟨bus, hbus, -⟩ := hcover.registers hregisters
  have hall : Bus.ofBoard b = .ok bus := by
    rw [Bus.ofBoard_eq, build_of_ports hmid, id, hbus]
    rfl
  refine ⟨bus, hall, fun p hp => ?_⟩
  have hentry : PortEntry.ofSpec b.historyLimit.toNat p ∈ bus.ports := by
    rw [Bus.ports_ofBoard hall]
    exact List.mem_map_of_mem hp
  have hany : ∀ a, a = p.ddrAddress ∨ a = p.drAddress → bus.isMapped a = true := by
    intro a ha
    have : (bus.ports.any fun q => (q.register? a).isSome) = true := by
      refine List.any_eq_true.2 ⟨_, hentry, ?_⟩
      rw [PortEntry.isSome_register?]
      simpa [PortEntry.ofSpec] using ha
    rw [Bus.isMapped, this, Bool.or_true]
  exact ⟨hany _ (.inl rfl), hany _ (.inr rfl)⟩

theorem StopsAt.ofBoard {part : Part} {fault : Failure MapFault} (h : b.StopsAt
    (build (Bus.addPortSpec b.historyLimit.toNat) Bus.addRegisterSpec id id .empty) part fault) :
    b.StopsAt Bus.ofBoard part fault where
  isIn := h.isIn
  before := by
    obtain ⟨bus, hbus⟩ := h.before
    exact ⟨bus, by rw [Bus.ofBoard_eq, ← hbus]; cases part <;> rfl⟩
  there := by
    rw [Bus.ofBoard_eq, ← h.there]
    cases part <;> rfl
  whole := by
    rw [Bus.ofBoard_eq]
    exact h.whole

/-- Where the check stops for a conflict, the building of the bus stops too. -/
theorem stopsAt_of_check {e : ManifestFault} (hroom : b.HasRoom) (h : b.check = .error e)
    (he : e.IsConflict) :
    ∃ part, b.StopsAt check part e ∧
      (∀ a, e = .duplicateAddress a → b.StopsAt Bus.ofBoard part (.fault (part.conflict a))) ∧
      ∀ id, e = .overlappingRegisters id → ∃ before p, part = .port before p ∧ p.id = id ∧
        p.ddrAddress = p.drAddress ∧
        b.StopsAt Bus.ofBoard part (.fault (part.conflict p.ddrAddress)) := by
  rw [check_eq] at h ⊢
  rcases bind_eq_error h with h | ⟨seen, hports, h⟩
  · -- All ports before the one in conflict are mapped, and so are their addresses.
    obtain ⟨before, p, behind, seen, hsplit, hbefore, hp⟩ := foldlM_eq_error h
    obtain ⟨bus, hbus, hcover⟩ := Bus.covers_ports hroom hbefore
    obtain ⟨hdup, hover⟩ := hcover.port_conflict hroom hp
    refine ⟨.port before p, stopsAt_port hsplit hbefore hp, fun a ha => ?_, fun id hid => ?_⟩
    · exact (stopsAt_port hsplit hbus (hdup a ha)).ofBoard
    · obtain ⟨rfl, hsame, hadd⟩ := hover id hid
      exact ⟨before, p, rfl, rfl, hsame, (stopsAt_port hsplit hbus hadd).ofBoard⟩
  · obtain ⟨mid, hmid, hcover⟩ := Bus.covers_ports hroom hports
    rcases bind_eq_error h with h | ⟨used, -, h⟩
    · -- So are all ports where the conflict is at a register, and the registers before it.
      obtain ⟨before, r, behind, used, hsplit, hbefore, hr⟩ := foldlM_eq_error h
      obtain ⟨bus, hbus, hcover'⟩ := hcover.registers hbefore
      obtain ⟨rfl, hadd⟩ := hcover'.register_conflict hr
      refine ⟨.register before r, stopsAt_register hports hsplit hbefore hr, fun a ha => ?_, nofun⟩
      cases ha
      exact (stopsAt_register hmid hsplit hbus hadd).ofBoard
    · cases h

end Board

/-! ## Main theorem -/

/-- What the checks on a manifest say of the bus for its board. -/
structure Manifest.Foretells (m : Manifest) : Prop where
  /-- Where all checks pass, there is a bus, and the port that is driven can be attached to it. -/
  valid : m.board.HasRoom → m.validate = .ok () → ∃ bus p, Bus.ofBoard m.board = .ok bus ∧
    m.board.drivenPort? = some p ∧
    BusPort.attach bus m.board.driverPort = .ok ⟨bus, p.ddrAddress, p.drAddress⟩
  /-- Whatever the arguments change, a plan for the manifest fails for no reason but a check. -/
  planned : ∀ (a : Cli.Args) (fault : Cli.RunFault), Cli.Plan.ofManifest a m = .error (.fault fault) →
    ∃ e, fault = .invalid e
  /-- An address that is used twice stops the checks and the building of the bus at one part. -/
  duplicate : m.board.HasRoom → ∀ a, m.validate = .error (.duplicateAddress a) →
    ∃ part : Board.Part, m.board.StopsAt Board.check part (.duplicateAddress a) ∧
      m.board.StopsAt Bus.ofBoard part (.fault (part.conflict a))
  /-- So does a port with one address for both registers. -/
  overlapping : m.board.HasRoom → ∀ id, m.validate = .error (.overlappingRegisters id) →
    ∃ before p, p.id = id ∧
      m.board.StopsAt Board.check (.port before p) (.overlappingRegisters id) ∧
      m.board.StopsAt Bus.ofBoard (.port before p) (.fault (.port id (.addressConflict p.ddrAddress)))
  unmapped : ∀ fault, Bus.ofBoard m.board = .error (.fault fault) → ∃ e, m.validate = .error e
  /-- Where there can be no room for the histories, there is no bus, whatever the checks say. -/
  aborted : ¬m.board.HasRoom → m.board.ports ≠ [] → Bus.ofBoard m.board = .error .abort

/-- The port of a bus that is found under the name of the driven port is the one that the board
declares first under this name. -/
theorem Bus.portEntry?_ofBoard {b : Board} {bus : Bus} (h : ofBoard b = .ok bus) (name : String) :
    bus.portEntry? name =
      (b.ports.find? (·.id == name)).map (.ofSpec b.historyLimit.toNat) := by
  unfold portEntry?
  rw [ports_ofBoard h, List.find?_map]
  rfl

theorem Bus.hasIoPorts_ofBoard {b : Board} {bus : Bus} (h : ofBoard b = .ok bus) :
    bus.HasIoPorts := by
  intro p hp
  rw [ports_ofBoard h] at hp
  obtain ⟨q, -, rfl⟩ := List.mem_map.1 hp
  exact ⟨_, rfl⟩

theorem Manifest.attach_of_validate {m : Manifest} (hroom : m.board.HasRoom)
    (h : m.validate = .ok ()) : ∃ bus p,
    Bus.ofBoard m.board = .ok bus ∧ m.board.drivenPort? = some p ∧
    BusPort.attach bus m.board.driverPort = .ok ⟨bus, p.ddrAddress, p.drAddress⟩ := by
  obtain ⟨hcheck, -, ⟨p, hp⟩, -⟩ := validate_eq_ok h
  obtain ⟨bus, hbus, hmapped⟩ := Board.ofBoard_of_check hroom hcheck
  obtain ⟨hddr, hdr⟩ := hmapped p (List.mem_of_find?_eq_some hp)
  obtain ⟨v, hv⟩ := (Bus.hasIoPorts_ofBoard hbus).read_of_isMapped hddr
  obtain ⟨v', hv'⟩ := (Bus.hasIoPorts_ofBoard hbus).read_of_isMapped hdr
  have hentry : bus.portEntry? m.board.driverPort =
      some (.ofSpec m.board.historyLimit.toNat p) := by
    rw [Bus.portEntry?_ofBoard hbus]
    exact congrArg _ hp
  refine ⟨bus, p, hbus, hp, ?_⟩
  rw [BusPort.attach, hentry]
  simp only [BusPort.attachAt, PortEntry.ofSpec, hv, hv']
  rfl

/-- A board that passes all checks has a port, so without room for its histories there is no bus. -/
theorem Manifest.ofBoard_of_validate {m : Manifest} (hroom : ¬m.board.HasRoom)
    (h : m.validate = .ok ()) : Bus.ofBoard m.board = .error .abort := by
  obtain ⟨-, -, ⟨p, hp⟩, -⟩ := validate_eq_ok h
  exact Bus.ofBoard_of_no_room hroom (List.ne_nil_of_mem (List.mem_of_find?_eq_some hp))

/-- A manifest that passes all checks and asks for longer histories than there can be. -/
def roomlessManifest : Manifest :=
  { Manifest.standard with board := { Board.h8_3067 with historyLimit := 0xFFFFFFFFFFFFFFFF } }

/-- There is no bus for its board: the program ends where one is asked for. -/
theorem ofBoard_roomless : roomlessManifest.validate = .ok () ∧
    Bus.ofBoard roomlessManifest.board = .error .abort :=
  ⟨rfl, rfl⟩

/-- For every manifest, its checks and the bus for its board agree: a manifest that passes has a bus
on which its port can be driven, and a conflict of addresses has the same culprit for both. Only the
room for the histories is not foretold. -/
theorem validate_foretells_ofBoard (m : Manifest) : m.Foretells where
  valid := Manifest.attach_of_validate
  planned a fault h := by
    rcases bind_eq_error h with hinvalid | ⟨u, hvalid, h⟩
    · obtain ⟨e, -, hfault⟩ := mapError_eq_error hinvalid
      cases hfault
      exact ⟨e, rfl⟩
    · have hvalid := mapError_eq_ok hvalid
      by_cases hroom : (a.adjust m).board.HasRoom
      · obtain ⟨bus, p, hbus, -, hport⟩ := Manifest.attach_of_validate hroom hvalid
        simp [hbus, hport, Except.mapError, bind, Except.bind, pure, Except.pure] at h
      · rw [Manifest.ofBoard_of_validate hroom hvalid] at h
        cases h
  duplicate hroom a h := by
    obtain ⟨part, hcheck, hdup, -⟩ :=
      Board.stopsAt_of_check hroom (Manifest.check_of_validate h trivial) trivial
    exact ⟨part, hcheck, hdup a rfl⟩
  overlapping hroom id h := by
    obtain ⟨part, hcheck, -, hover⟩ :=
      Board.stopsAt_of_check hroom (Manifest.check_of_validate h trivial) trivial
    obtain ⟨before, p, rfl, rfl, -, hbus⟩ := hover id rfl
    exact ⟨before, p, rfl, hcheck, hbus⟩
  unmapped fault h := by
    cases hvalid : m.validate with
    | error e => exact ⟨e, rfl⟩
    | ok u =>
      by_cases hroom : m.board.HasRoom
      · obtain ⟨bus, p, hbus, -⟩ := Manifest.attach_of_validate hroom hvalid
        rw [hbus] at h
        cases h
      · rw [Manifest.ofBoard_of_validate hroom hvalid] at h
        cases h
  aborted := Bus.ofBoard_of_no_room

/-- A manifest with a register at an address of its port. -/
def crowdedManifest : Manifest :=
  { Manifest.standard with
    board := { Board.h8_3067 with
      registers := [⟨"timer", 0xFF, 0⟩, ⟨"shadow", Board.h8PortBData, 0⟩] } }

/-- A manifest with a port of a single address. -/
def foldedManifest : Manifest :=
  { Manifest.standard with
    board := { Board.h8_3067 with ports := Board.h8_3067.ports ++ [⟨"port_c", 0xFF, 0xFF⟩] } }

/-- One manifest that passes, and one for each kind of conflict. -/
theorem validate_foretells_ofBoard_conflicts :
    (Manifest.standard.validate = .ok () ∧ ∃ bus p, Bus.ofBoard Manifest.standard.board = .ok bus ∧
      Manifest.standard.board.drivenPort? = some p ∧
      BusPort.attach bus "port_b" = .ok ⟨bus, p.ddrAddress, p.drAddress⟩) ∧
    (crowdedManifest.validate = .error (.duplicateAddress Board.h8PortBData) ∧ ∃ part,
      crowdedManifest.board.StopsAt Board.check part (.duplicateAddress Board.h8PortBData) ∧
      crowdedManifest.board.StopsAt Bus.ofBoard part
        (.fault (part.conflict Board.h8PortBData))) ∧
    foldedManifest.validate = .error (.overlappingRegisters "port_c") ∧ ∃ before p,
      p.id = "port_c" ∧
      foldedManifest.board.StopsAt Board.check (.port before p) (.overlappingRegisters "port_c") ∧
      foldedManifest.board.StopsAt Bus.ofBoard (.port before p)
        (.fault (.port "port_c" (.addressConflict p.ddrAddress))) :=
  have hvalid : Manifest.standard.validate = .ok () := rfl
  have hcrowded : crowdedManifest.validate = .error (.duplicateAddress Board.h8PortBData) := rfl
  have hfolded : foldedManifest.validate = .error (.overlappingRegisters "port_c") := rfl
  ⟨⟨hvalid, (validate_foretells_ofBoard _).valid (by decide) hvalid⟩,
    ⟨hcrowded, (validate_foretells_ofBoard _).duplicate (by decide) _ hcrowded⟩,
    ⟨hfolded, (validate_foretells_ofBoard _).overlapping (by decide) _ hfolded⟩⟩

end BlinkBench

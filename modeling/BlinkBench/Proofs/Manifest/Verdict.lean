import BlinkBench.Proofs.Checklist
import BlinkBench.Proofs.Manifest.Agreement
/-!
# The verdict on a manifest

Several things may be wrong with a manifest at once, anywhere in its lists. `validate_verdict` says
that it passes exactly where nothing is, and that otherwise the first thing in the order of the checks
is reported, with the identifier or the address that is at fault.
-/
namespace BlinkBench

/-! ## The addresses of a board -/

def PortSpec.Uses (p : PortSpec) (a : UInt64) : Prop :=
  a = p.ddrAddress ∨ a = p.drAddress

namespace Board

/-- The addresses of the ports and of the registers. -/
def addresses (b : Board) : List UInt64 :=
  b.portAddresses ++ b.registers.map (·.address)

theorem mem_portAddresses {b : Board} {a : UInt64} :
    a ∈ b.portAddresses ↔ ∃ q ∈ b.ports, q.Uses a := by
  simp [portAddresses, PortSpec.Uses]

/-- The addresses of ports all differ where no port uses one twice or one of a port before it. -/
theorem nodup_flatMap_addresses (ports : List PortSpec) :
    (ports.flatMap fun p => [p.ddrAddress, p.drAddress]).Nodup ↔
      ∀ e ∈ eachBehind ports, e.2.ddrAddress ≠ e.2.drAddress ∧
        ∀ q ∈ e.1, ¬ q.Uses e.2.ddrAddress ∧ ¬ q.Uses e.2.drAddress := by
  induction ports using List.reverseRecOn with
  | nil => simp [eachBehind]
  | append_singleton ports p ih =>
    rw [forall_eachBehind_concat, ← ih, List.flatMap_append, List.nodup_append, List.flatMap_singleton]
    have hpair : [p.ddrAddress, p.drAddress].Nodup ↔ p.ddrAddress ≠ p.drAddress := by simp
    have hapart : (∀ a ∈ ports.flatMap fun p => [p.ddrAddress, p.drAddress],
        ∀ b ∈ [p.ddrAddress, p.drAddress], a ≠ b) ↔
        ∀ q ∈ ports, ¬ q.Uses p.ddrAddress ∧ ¬ q.Uses p.drAddress := by
      simp only [List.mem_flatMap, List.mem_cons, List.not_mem_nil, or_false, PortSpec.Uses]
      grind
    rw [hpair, hapart]

/-- So do those of a board where moreover no register has an address of a port or of a register before
it. -/
theorem nodup_addresses_iff (b : Board) : b.addresses.Nodup ↔
    (∀ e ∈ eachBehind b.ports, e.2.ddrAddress ≠ e.2.drAddress ∧
      ∀ q ∈ e.1, ¬ q.Uses e.2.ddrAddress ∧ ¬ q.Uses e.2.drAddress) ∧
    ∀ e ∈ eachBehind b.registers, (∀ q ∈ b.ports, ¬ q.Uses e.2.address) ∧
      ∀ q ∈ e.1, q.address ≠ e.2.address := by
  have hapart : (∀ a ∈ b.portAddresses, ∀ c ∈ b.registers.map (·.address), a ≠ c) ↔
      ∀ r ∈ b.registers, ∀ q ∈ b.ports, ¬ q.Uses r.address := by
    simp only [mem_portAddresses, List.mem_map]
    grind
  have heach := forall_eachBehind (l := b.registers) (P := fun r => ∀ q ∈ b.ports, ¬ q.Uses r.address)
  rw [addresses, List.nodup_append, hapart, ← heach, nodup_map_iff, portAddresses,
    nodup_flatMap_addresses]
  constructor
  · rintro ⟨hports, hregisters, hapart⟩
    exact ⟨hports, fun e he => ⟨hapart e he, hregisters e he⟩⟩
  · rintro ⟨hports, hregisters⟩
    exact ⟨hports, fun e he => (hregisters e he).2, fun e he => (hregisters e he).1⟩

/-- What is checked of a board: the ports one by one and then the registers, each of them against those
before it. -/
def checklist {ε : Type} (ofPort : List PortSpec → PortSpec → List (Check ε))
    (ofRegister : List RegisterSpec → RegisterSpec → List (Check ε)) (b : Board) : List (Check ε) :=
  ((eachBehind b.ports).flatMap fun e => ofPort e.1 e.2) ++
    (eachBehind b.registers).flatMap fun e => ofRegister e.1 e.2

variable {σ τ α ε : Type} {ofPort : List PortSpec → PortSpec → List (Check ε)}
  {ofRegister : List RegisterSpec → RegisterSpec → List (Check ε)}

theorem forall_mem_checklist {b : Board} {P : Check ε → Prop} :
    (∀ c ∈ b.checklist ofPort ofRegister, P c) ↔
      (∀ e ∈ eachBehind b.ports, ∀ c ∈ ofPort e.1 e.2, P c) ∧
      ∀ e ∈ eachBehind b.registers, ∀ c ∈ ofRegister e.1 e.2, P c := by
  rw [checklist, List.forall_mem_append, List.forall_mem_flatMap, List.forall_mem_flatMap]

/-- Who goes through a board step by step makes the checks that the steps make. -/
theorem verdict_build {port : σ → PortSpec → Except ε σ} {register : τ → RegisterSpec → Except ε τ}
    {turn : σ → τ} {close : τ → α} {Seen : List PortSpec → σ → Prop}
    {SeenToo : List RegisterSpec → τ → Prop} {b : Board} {s : σ}
    (hport : Check.MadeBy ofPort port Seen) (hregister : Check.MadeBy ofRegister register SeenToo)
    (hs : Seen [] s) (hturn : ∀ s, Seen b.ports s → SeenToo [] (turn s)) :
    Check.Verdict (b.checklist ofPort ofRegister) (b.build port register turn close s) := by
  obtain ⟨hports, hseen⟩ := hport.foldlM hs b.ports
  refine hports.bind fun s' hs' => ?_
  obtain ⟨hregisters, -⟩ := hregister.foldlM (hturn s' (hseen s' hs')) b.registers
  rw [← List.append_nil (List.flatMap _ _)]
  exact hregisters.bind fun t _ => Check.verdict_nil (close t)

end Board

/-! ## What is checked of a manifest -/

/-- What is checked of a port: that no port before it has its identifier, that it has two addresses,
and that no port before it uses either of them. -/
def PortSpec.checks (before : List PortSpec) (p : PortSpec) : List (Check ManifestFault) :=
  [⟨∃ q ∈ before, q.id = p.id, .duplicatePort p.id⟩,
    ⟨p.ddrAddress = p.drAddress, .overlappingRegisters p.id⟩,
    ⟨∃ q ∈ before, q.Uses p.ddrAddress, .duplicateAddress p.ddrAddress⟩,
    ⟨∃ q ∈ before, q.Uses p.drAddress, .duplicateAddress p.drAddress⟩]

/-- What is checked of a register: that no port and no register before it has its address. -/
def RegisterSpec.checks (ports : List PortSpec) (before : List RegisterSpec) (r : RegisterSpec) :
    List (Check ManifestFault) :=
  [⟨(∃ q ∈ ports, q.Uses r.address) ∨ ∃ q ∈ before, q.address = r.address,
    .duplicateAddress r.address⟩]

/-- Everything that is checked of a manifest, in order. -/
def Manifest.checks (m : Manifest) : List (Check ManifestFault) :=
  [⟨m.schemaVersion ≠ "1.0", .unsupportedSchema m.schemaVersion⟩,
    ⟨m.board.ports = [], .noPorts m.board.name⟩] ++
  (m.board.checklist PortSpec.checks (RegisterSpec.checks m.board.ports) ++
  [⟨m.board.historyLimit = 0, .zeroHistory⟩,
    ⟨¬ ∃ p ∈ m.board.ports, p.id = m.board.driverPort, .unknownDriverPort m.board.driverPort⟩,
    ⟨m.limits.maxToggles = none ∧ m.limits.wallTimeMs = none, .unbounded⟩,
    ⟨m.limits.maxToggles = some 0, .zeroToggles⟩])

/-- A manifest with which nothing is wrong. -/
structure Manifest.Valid (m : Manifest) : Prop where
  version : m.schemaVersion = "1.0"
  ports : m.board.ports ≠ []
  ids : (m.board.ports.map (·.id)).Nodup
  addresses : m.board.addresses.Nodup
  history : 0 < m.board.historyLimit
  driven : ∃ p ∈ m.board.ports, p.id = m.board.driverPort
  bounded : m.limits.maxToggles ≠ none ∨ m.limits.wallTimeMs ≠ none
  toggles : m.limits.maxToggles ≠ some 0

/-- What a fault says of a manifest is so. What is said to be there twice is at some port or register and
before it too. -/
def Manifest.Bears (m : Manifest) : ManifestFault → Prop
  | .unsupportedSchema version => m.schemaVersion = version ∧ version ≠ "1.0"
  | .noPorts name => m.board.name = name ∧ m.board.ports = []
  | .duplicatePort id => ∃ e ∈ eachBehind m.board.ports, e.2.id = id ∧ ∃ q ∈ e.1, q.id = id
  | .overlappingRegisters id => ∃ p ∈ m.board.ports, p.id = id ∧ p.ddrAddress = p.drAddress
  | .duplicateAddress a =>
    (∃ e ∈ eachBehind m.board.ports, e.2.Uses a ∧ ∃ q ∈ e.1, q.Uses a) ∨
    ∃ e ∈ eachBehind m.board.registers, e.2.address = a ∧
      ((∃ q ∈ m.board.ports, q.Uses a) ∨ ∃ q ∈ e.1, q.address = a)
  | .zeroHistory => m.board.historyLimit = 0
  | .unknownDriverPort id => m.board.driverPort = id ∧ ∀ p ∈ m.board.ports, p.id ≠ id
  | .unbounded => m.limits.maxToggles = none ∧ m.limits.wallTimeMs = none
  | .zeroToggles => m.limits.maxToggles = some 0

/-! ## Who makes the checks -/

/-- The identifiers and the addresses seen of some ports. -/
def SeenPorts (before : List PortSpec) (seen : List String × List UInt64) : Prop :=
  (∀ id, id ∈ seen.1 ↔ ∃ q ∈ before, q.id = id) ∧ ∀ a, a ∈ seen.2 ↔ ∃ q ∈ before, q.Uses a

/-- The addresses seen of all ports and of some registers. -/
def SeenRegisters (ports : List PortSpec) (before : List RegisterSpec) (used : List UInt64) : Prop :=
  ∀ a, a ∈ used ↔ (∃ q ∈ ports, q.Uses a) ∨ ∃ q ∈ before, q.address = a

theorem madeBy_checkPort : Check.MadeBy PortSpec.checks checkPort SeenPorts where
  verdict := by
    rintro before p ⟨ids, used⟩ ⟨hids, hused⟩
    unfold checkPort
    split
    · exact Check.verdict_of_violated ((hids _).1 ‹_›) _
    refine Check.Verdict.cons (mt (hids _).2 ‹_›) ?_
    split
    · exact Check.verdict_of_violated ‹_› _
    refine Check.Verdict.cons ‹_› ?_
    split
    · exact Check.verdict_of_violated ((hused _).1 ‹_›) _
    refine Check.Verdict.cons (mt (hused _).2 ‹_›) ?_
    split
    · exact Check.verdict_of_violated ((hused _).1 ‹_›) _
    exact Check.Verdict.cons (mt (hused _).2 ‹_›) (Check.verdict_nil _)
  seen := by
    rintro before p seen seen' ⟨hids, hused⟩ h
    obtain ⟨-, -, -, -, rfl⟩ := checkPort_eq_ok h
    refine ⟨fun id => ?_, fun a => ?_⟩
    · simp only [List.mem_cons, hids, List.mem_append]
      grind
    · simp only [List.mem_cons, hused, List.mem_append, PortSpec.Uses]
      grind

theorem madeBy_checkRegister (ports : List PortSpec) :
    Check.MadeBy (RegisterSpec.checks ports) checkRegister (SeenRegisters ports) where
  verdict := by
    rintro before r used hused
    unfold checkRegister
    split
    · exact Check.verdict_of_violated ((hused _).1 ‹_›) _
    exact Check.Verdict.cons (mt (hused _).2 ‹_›) (Check.verdict_nil _)
  seen := by
    rintro before r used used' hused h
    unfold checkRegister at h
    split at h
    · cases h
    · cases h
      intro a
      simp only [List.mem_cons, hused a, List.mem_append]
      grind

theorem Board.verdict_check (b : Board) :
    Check.Verdict (b.checklist PortSpec.checks (RegisterSpec.checks b.ports)) b.check := by
  rw [check_eq]
  refine verdict_build madeBy_checkPort (madeBy_checkRegister b.ports) ⟨by simp, by simp⟩ ?_
  rintro ⟨ids, used⟩ ⟨-, hused⟩ a
  rw [hused]
  simp

theorem Limits.verdict_check (l : Limits) : Check.Verdict
    [⟨l.maxToggles = none ∧ l.wallTimeMs = none, .unbounded⟩, ⟨l.maxToggles = some 0, .zeroToggles⟩]
    l.check := by
  unfold check
  split
  · rename_i hnone hwall
    have hboth : l.maxToggles = none ∧ l.wallTimeMs = none := ⟨hnone, hwall⟩
    exact Check.verdict_of_violated hboth _
  · rename_i n hn
    refine Check.Verdict.cons (by simp [hn]) ?_
    split
    · rename_i hzero
      exact Check.verdict_of_violated (hn.trans (congrArg some hzero)) _
    · rename_i hpos
      exact Check.Verdict.cons (by simpa [hn] using hpos) (Check.verdict_nil _)
  · rename_i hnone hwall
    exact Check.Verdict.cons (by simp [hwall]) (Check.Verdict.cons (by simp [hnone]) (Check.verdict_nil _))

namespace Manifest

theorem verdict_validate (m : Manifest) : Check.Verdict m.checks m.validate := by
  rw [validate_eq]
  split
  · exact Check.verdict_of_violated ‹_› _
  refine Check.Verdict.cons ‹_› ?_
  split
  · exact Check.verdict_of_violated (List.isEmpty_iff.1 ‹_›) _
  refine Check.Verdict.cons (mt List.isEmpty_iff.2 ‹_›) ?_
  refine m.board.verdict_check.bind fun _ _ => ?_
  split
  · exact Check.verdict_of_violated ‹_› _
  refine Check.Verdict.cons ‹_› ?_
  have hdriven : m.board.drivenPort?.isNone = true ↔
      ¬ ∃ p ∈ m.board.ports, p.id = m.board.driverPort := by
    simp [Board.drivenPort?]
  split
  · exact Check.verdict_of_violated (hdriven.1 ‹_›) _
  exact Check.Verdict.cons (mt hdriven.2 ‹_›) m.limits.verdict_check

/-- No check on a board is violated where its ports have identifiers of their own and all addresses
differ. -/
theorem unviolated_iff (b : Board) :
    (∀ c ∈ b.checklist PortSpec.checks (RegisterSpec.checks b.ports), ¬ c.violated) ↔
      (b.ports.map (·.id)).Nodup ∧ b.addresses.Nodup := by
  rw [Board.forall_mem_checklist, nodup_map_iff, Board.nodup_addresses_iff]
  simp only [PortSpec.checks, RegisterSpec.checks, List.forall_mem_cons, List.not_mem_nil]
  grind

theorem valid_iff (m : Manifest) : m.Valid ↔ ∀ c ∈ m.checks, ¬ c.violated := by
  rw [checks, List.forall_mem_append, List.forall_mem_append, unviolated_iff]
  simp only [List.forall_mem_cons, List.not_mem_nil, false_implies, implies_true, and_true, not_not]
  constructor
  · intro h
    refine ⟨⟨h.version, h.ports⟩, ⟨h.ids, h.addresses⟩, ?_, h.driven, ?_, h.toggles⟩
    · exact UInt64.pos_iff_ne_zero.1 h.history
    · exact not_and_or.2 h.bounded
  · rintro ⟨⟨hversion, hports⟩, ⟨hids, haddresses⟩, hhistory, hdriven, hbounded, htoggles⟩
    exact ⟨hversion, hports, hids, haddresses, UInt64.pos_iff_ne_zero.2 hhistory, hdriven,
      not_and_or.1 hbounded, htoggles⟩

theorem bears_of_violated (m : Manifest) : ∀ c ∈ m.checks, c.violated → m.Bears c.fault := by
  have hmem : ∀ e ∈ eachBehind m.board.ports, e.2 ∈ m.board.ports := forall_eachBehind.2 fun _ h => h
  rw [checks, List.forall_mem_append, List.forall_mem_append, Board.forall_mem_checklist]
  simp only [PortSpec.checks, RegisterSpec.checks, List.forall_mem_cons, List.not_mem_nil, Bears]
  refine ⟨by simp, ⟨fun e he => ?_, fun e he => ?_⟩, by simp⟩
  · refine ⟨fun h => ⟨e, he, rfl, h⟩, fun h => ⟨e.2, hmem e he, rfl, h⟩, fun h => ?_, fun h => ?_,
      nofun⟩
    · exact .inl ⟨e, he, .inl rfl, h⟩
    · exact .inl ⟨e, he, .inr rfl, h⟩
  · exact ⟨fun h => .inr ⟨e, he, rfl, h⟩, nofun⟩

/-- A manifest passes exactly where nothing is wrong with it. Otherwise the first check that is violated
is the one reported, and what is reported is so. -/
theorem validate_verdict (m : Manifest) :
    (m.validate = .ok () ↔ m.Valid) ∧ Check.Verdict m.checks m.validate ∧
      ∀ e, m.validate = .error e → m.Bears e := by
  have hverdict := m.verdict_validate
  refine ⟨?_, hverdict, fun e he => ?_⟩
  · rw [valid_iff, ← hverdict.ok_iff]
    exact ⟨fun h => ⟨(), h⟩, fun ⟨(), h⟩ => h⟩
  · rw [he] at hverdict
    obtain ⟨before, c, behind, hchecks, -, hc, rfl⟩ := hverdict
    exact m.bears_of_violated c (by simp [hchecks]) hc

end Manifest

/-- A manifest with much wrong with it: the data register of its third port and its register have
addresses that are taken, nothing is kept of what is written, and no run stops. -/
def tangledManifest : Manifest where
  schemaVersion := "1.0"
  board :=
    { name := "tangled"
      ports := [⟨"port_a", 1, 2⟩, ⟨"port_b", 3, 4⟩, ⟨"port_c", 5, 2⟩]
      registers := [⟨"syscr", 1, 9⟩]
      driverPort := "port_d"
      historyLimit := 0 }
  delay := {}
  limits := {}

/-- The third port is to blame. -/
theorem validate_verdict_tangled :
    tangledManifest.validate = .error (.duplicateAddress 2) ∧
      tangledManifest.Bears (.duplicateAddress 2) ∧ ¬ tangledManifest.Valid :=
  have h : tangledManifest.validate = .error (.duplicateAddress 2) := rfl
  ⟨h, (Manifest.validate_verdict _).2.2 _ h, fun hvalid => by
    rw [(Manifest.validate_verdict _).1.2 hvalid] at h
    cases h⟩

end BlinkBench

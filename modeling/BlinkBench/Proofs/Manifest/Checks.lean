import BlinkBench.Manifest.Validate
import BlinkBench.Proofs.Folds
import Mathlib.Data.List.Nodup
/-!
# What the checks check

The checks on a board are steps over its ports and its registers. Behind them the ports have
identifiers and addresses that all differ.
-/
namespace BlinkBench

/-! ## Step by step -/

/-- The checks on the ports and the registers of a board. -/
def Board.check (b : Board) : Except ManifestFault Unit := do
  checkRegisters (← checkPorts [] [] b.ports) b.registers

/-- The check on a port behind ports with some identifiers and addresses. -/
def checkPort (seen : List String × List UInt64) (p : PortSpec) :
    Except ManifestFault (List String × List UInt64) :=
  if p.id ∈ seen.1 then .error (.duplicatePort p.id)
  else if p.ddrAddress = p.drAddress then .error (.overlappingRegisters p.id)
  else if p.ddrAddress ∈ seen.2 then .error (.duplicateAddress p.ddrAddress)
  else if p.drAddress ∈ seen.2 then .error (.duplicateAddress p.drAddress)
  else .ok (p.id :: seen.1, p.drAddress :: p.ddrAddress :: seen.2)

/-- The check on a register behind some addresses. -/
def checkRegister (used : List UInt64) (r : RegisterSpec) : Except ManifestFault (List UInt64) :=
  if r.address ∈ used then .error (.duplicateAddress r.address) else .ok (r.address :: used)

theorem checkPorts_eq (ids : List String) (used : List UInt64) (ports : List PortSpec) :
    checkPorts ids used ports =
      ports.foldlM checkPort (ids, used) >>= fun seen => pure seen.2 := by
  induction ports generalizing ids used with
  | nil => rfl
  | cons p ports ih =>
    rw [checkPorts, List.foldlM_cons, checkPort]
    split
    · rfl
    · split
      · rfl
      · split
        · rfl
        · split
          · rfl
          · exact ih _ _

theorem checkRegisters_eq (used : List UInt64) (registers : List RegisterSpec) :
    checkRegisters used registers =
      registers.foldlM checkRegister used >>= fun _ => pure () := by
  induction registers generalizing used with
  | nil => rfl
  | cons r registers ih =>
    rw [checkRegisters, List.foldlM_cons, checkRegister]
    split
    · rfl
    · exact ih _

/-! ## Checks that pass -/

theorem checkPort_eq_ok {seen seen' : List String × List UInt64} {p : PortSpec}
    (h : checkPort seen p = .ok seen') : p.id ∉ seen.1 ∧ p.ddrAddress ≠ p.drAddress ∧
      p.ddrAddress ∉ seen.2 ∧ p.drAddress ∉ seen.2 ∧
      seen' = (p.id :: seen.1, p.drAddress :: p.ddrAddress :: seen.2) := by
  unfold checkPort at h
  split at h
  · cases h
  · split at h
    · cases h
    · split at h
      · cases h
      · split at h
        · cases h
        · cases h
          exact ⟨by assumption, by assumption, by assumption, by assumption, rfl⟩

/-- Ports that pass the check have identifiers of their own, and all their addresses differ. -/
theorem nodup_of_foldlM_checkPort {ports : List PortSpec} {seen seen' : List String × List UInt64}
    (h : ports.foldlM checkPort seen = .ok seen') (hids : seen.1.Nodup) (hused : seen.2.Nodup) :
    (seen.1.reverse ++ ports.map (·.id)).Nodup ∧
      (seen.2.reverse ++ ports.flatMap fun p => [p.ddrAddress, p.drAddress]).Nodup := by
  induction ports generalizing seen with
  | nil => simpa using ⟨hids, hused⟩
  | cons p ports ih =>
    rw [List.foldlM_cons] at h
    obtain ⟨mid, hp, h⟩ := bind_eq_ok h
    obtain ⟨hid, hne, hddr, hdr, rfl⟩ := checkPort_eq_ok hp
    have hrest := ih h (List.nodup_cons.2 ⟨hid, hids⟩)
      (List.nodup_cons.2 ⟨by simp [hne.symm, hdr], List.nodup_cons.2 ⟨hddr, hused⟩⟩)
    simpa using hrest

theorem Board.nodup_of_check {b : Board} (h : b.check = .ok ()) :
    (b.ports.map (·.id)).Nodup ∧ b.portAddresses.Nodup := by
  unfold check at h
  obtain ⟨used, hports, -⟩ := bind_eq_ok h
  rw [checkPorts_eq] at hports
  obtain ⟨seen, hseen, -⟩ := bind_eq_ok hports
  simpa [portAddresses] using nodup_of_foldlM_checkPort hseen List.nodup_nil List.nodup_nil

/-! ## One check behind the other -/

theorem Manifest.validate_eq (m : Manifest) : m.validate =
    if m.schemaVersion ≠ BlinkBench.schemaVersion then .error (.unsupportedSchema m.schemaVersion)
    else if m.board.ports.isEmpty then .error (.noPorts m.board.name)
    else m.board.check >>= fun _ =>
      if m.board.historyLimit = 0 then .error .zeroHistory
      else if m.board.drivenPort?.isNone then .error (.unknownDriverPort m.board.driverPort)
      else m.limits.check := by
  unfold validate Board.check
  by_cases hversion : m.schemaVersion ≠ BlinkBench.schemaVersion
  · rw [if_pos hversion, if_pos hversion]
    rfl
  · rw [if_neg hversion, if_neg hversion]
    by_cases hports : m.board.ports.isEmpty = true
    · rw [if_pos hports, if_pos hports]
      rfl
    · rw [if_neg hports, if_neg hports]
      cases checkPorts [] [] m.board.ports with
      | error e => rfl
      | ok used =>
        -- What follows the registers is the same on both sides, however it is bracketed.
        show checkRegisters used m.board.registers >>= _ = checkRegisters used m.board.registers >>= _
        cases checkRegisters used m.board.registers with
        | error e => rfl
        | ok u =>
          show ite _ _ _ = ite _ _ _
          split
          · rfl
          · show ite _ _ _ = ite _ _ _
            split <;> rfl

/-- Checks that pass pass one by one. -/
theorem Manifest.validate_eq_ok {m : Manifest} (h : m.validate = .ok ()) :
    m.board.check = .ok () ∧ m.board.historyLimit ≠ 0 ∧ (∃ p, m.board.drivenPort? = some p) ∧
      m.limits.check = .ok () := by
  rw [validate_eq] at h
  split at h
  · cases h
  · split at h
    · cases h
    · obtain ⟨u, hcheck, h⟩ := bind_eq_ok h
      split at h
      · cases h
      · split at h
        · cases h
        · rename_i hlimit hdriven
          exact ⟨hcheck, hlimit, Option.ne_none_iff_exists'.1 (by simpa using hdriven), h⟩

/-- Of all checks, only that on the limits can fail where nothing else has changed. -/
theorem Manifest.validate_of_validate {m m' : Manifest} (hversion : m'.schemaVersion = m.schemaVersion)
    (hboard : m'.board = m.board) (hm : m.validate = .ok ()) : m'.validate = m'.limits.check := by
  rw [validate_eq] at hm ⊢
  rw [hversion, hboard]
  split at hm
  · cases hm
  rename_i hschema
  split at hm
  · cases hm
  rename_i hports
  obtain ⟨u, hcheck, hm⟩ := bind_eq_ok hm
  split at hm
  · cases hm
  rename_i hlimit
  split at hm
  · cases hm
  rename_i hdriven
  have hrest : (Except.ok u >>= fun _ =>
      if m.board.historyLimit = 0 then .error .zeroHistory
      else if m.board.drivenPort?.isNone then .error (.unknownDriverPort m.board.driverPort)
      else m'.limits.check) = m'.limits.check := by
    show ite _ _ _ = _
    rw [if_neg hlimit, if_neg hdriven]
  rw [if_neg hschema, if_neg hports, hcheck, hrest]

/-- Two things in conflict at an address. -/
def ManifestFault.IsConflict : ManifestFault → Prop
  | .duplicateAddress _ | .overlappingRegisters _ => True
  | _ => False

/-- A conflict is found on the board and nowhere else. -/
theorem Manifest.check_of_validate {m : Manifest} {e : ManifestFault} (h : m.validate = .error e)
    (he : e.IsConflict) : m.board.check = .error e := by
  rw [validate_eq] at h
  cases hcheck : m.board.check with
  | error e' =>
    rw [hcheck] at h
    simp only [bind, Except.bind] at h
    grind [ManifestFault.IsConflict]
  | ok u =>
    rw [hcheck] at h
    simp only [bind, Except.bind, Limits.check] at h
    grind [ManifestFault.IsConflict]

end BlinkBench

import BlinkBench.Proofs.Bus.Frame
import BlinkBench.Proofs.Bus.Use
import BlinkBench.Proofs.Manifest.Agreement
import BlinkBench.Proofs.Snapshot
import BlinkBench.Snapshot.Basic
/-!
# Registers in a snapshot

Registers have addresses of their own on a bus, while a snapshot shows them by their names. Of several
registers of a board with one name it shows the one with the greatest address, so it shows all of them
where no two share a name, and only there (`registers_shown`).
-/
namespace BlinkBench

/-! ## The registers of a board on its bus -/

/-- A bus with the registers of a board, whatever their values, at addresses where no port answers. -/
structure Bus.Declares (bus : Bus) (b : Board) : Prop where
  sound : bus.Sound
  plain : ∀ r ∈ b.registers, r.address ∉ bus.portAddresses
  names : ∀ a, (bus.registers.cells.find? a).map (·.name) =
    (b.registers.find? (·.address == a)).map (·.name)

namespace Bus

variable {bus bus' : Bus} {b : Board} {r : RegisterSpec} {a : UInt64}

theorem declares_ofBoard (h : ofBoard b = .ok bus) : bus.Declares b := by
  obtain ⟨-, -, hfind⟩ := registers_ofBoard h
  refine ⟨sound_ofBoard h, fun r hr => address_not_mem_portAddresses h hr, fun a => ?_⟩
  rw [hfind, Option.map_map]
  rfl

/-- No write changes which registers there are. -/
theorem Declares.write {v : UInt8} (h : bus.Declares b) (hwrite : bus.write a v = .ok bus') :
    bus'.Declares b where
  sound := h.sound.write hwrite
  plain r hr := by
    rw [(h.sound.portAddresses_write hwrite).1]
    exact h.plain r hr
  names a := by
    rw [(h.sound.stores hwrite).names]
    exact h.names a

/-- Where no two registers of a board share an address, each is found at its own. -/
theorem Declares.find? (h : bus.Declares b) (hnodup : (b.registers.map (·.address)).Nodup)
    (hr : r ∈ b.registers) :
    ∃ v, bus.registers.cells.find? r.address = some ⟨r.name, v⟩ := by
  have hfind : b.registers.find? (·.address == r.address) = some r :=
    find?_key_of_mem RegisterSpec.address hnodup hr
  have hname := h.names r.address
  rw [hfind, Option.map_some] at hname
  obtain ⟨cell, hcell, hname⟩ := Option.map_eq_some_iff.1 hname
  exact ⟨cell.value, by rw [hcell, ← hname]⟩

/-- Each register of the bus is one of the board. -/
theorem Declares.exists_register {cell : Register} (h : bus.Declares b)
    (hcell : bus.registers.cells.find? a = some cell) :
    ∃ r ∈ b.registers, r.address = a ∧ r.name = cell.name := by
  have hname := h.names a
  rw [hcell, Option.map_some] at hname
  obtain ⟨r, hr, hname⟩ := Option.map_eq_some_iff.1 hname.symm
  exact ⟨r, List.mem_of_find?_eq_some hr, by simpa using List.find?_some hr, hname⟩

end Bus

/-! ## What is shown -/

namespace Snapshot

/-- A snapshot shows a register of a board under its name, with its address and with what is read
there. -/
def ShowsRegister (s : Snapshot) (bus : Bus) (r : RegisterSpec) : Prop :=
  ∃ v, bus.read r.address = .ok v ∧ s.registers.find? r.name = some ⟨r.address, v⟩

/-- What a snapshot shows under a name: the register with this name that is the last by address. -/
theorem find?_registers_capture (report : Report) (bus : Bus) (name : String) :
    (capture report bus).registers.find? name =
      (bus.registers.cells.entries.reverse.find? (·.2.name == name)).map
        fun e => ⟨e.1, e.2.value⟩ := by
  show (AscendingMap.ofList _).find? name = _
  rw [AscendingMap.find?_ofList, ← List.map_reverse]
  exact lookup_map_key (fun e : UInt64 × Register => e.2.name) _ _ name

variable {bus : Bus} {b : Board} {r : RegisterSpec}

/-- A register is shown unless one with its name has a greater address. -/
theorem showsRegister_iff (h : bus.Declares b) (hnodup : (b.registers.map (·.address)).Nodup)
    (hr : r ∈ b.registers) (report : Report) : (capture report bus).ShowsRegister bus r ↔
      ∀ q ∈ b.registers, q.name = r.name → q.address ≤ r.address := by
  obtain ⟨v, hv⟩ := h.find? hnodup hr
  have hentry : (r.address, (⟨r.name, v⟩ : Register)) ∈ bus.registers.cells.entries :=
    AscendingMap.mem_entries.2 hv
  -- Some register with the name is shown, and its address is the greatest.
  obtain ⟨e, he⟩ : ∃ e, bus.registers.cells.entries.reverse.find? (·.2.name == r.name) =
      some e := by
    rw [← Option.isSome_iff_exists, List.find?_isSome]
    exact ⟨_, List.mem_reverse.2 hentry, by simp⟩
  obtain ⟨hmem, hname, hgreatest⟩ := AscendingMap.of_find?_reverse_entries he
  have hshown : (capture report bus).registers.find? r.name = some ⟨e.1, e.2.value⟩ := by
    rw [find?_registers_capture, he]
    rfl
  constructor
  · rintro ⟨w, -, hw⟩ q hq hqname
    have haddress : e.1 = r.address := by
      rw [hshown] at hw
      exact congrArg RegisterSnapshot.address (Option.some.inj hw)
    obtain ⟨u, hu⟩ := h.find? hnodup hq
    have hother : (q.address, (⟨q.name, u⟩ : Register)) ∈ bus.registers.cells.entries :=
      AscendingMap.mem_entries.2 hu
    rw [← haddress]
    rcases hgreatest _ hother (by simpa using hqname) with rfl | hlt
    · exact UInt64.le_refl _
    · exact UInt64.le_of_lt (Std.compare_eq_lt.1 hlt)
  · intro hall
    obtain ⟨q, hq, hqaddress, hqname⟩ := h.exists_register (AscendingMap.mem_entries.1 hmem)
    have hle : e.1 ≤ r.address := by
      rw [← hqaddress]
      exact hall q hq (hqname.trans (by simpa using hname))
    rcases hgreatest _ hentry (by simp) with heq | hlt
    · refine ⟨v, ?_, by rw [hshown, ← heq]⟩
      rw [Bus.read_plain (h.plain r hr), RegisterFile.read?, hv]
      rfl
    · exact absurd (Std.compare_eq_lt.1 hlt) (UInt64.not_lt.2 hle)

/-- All registers of a board are shown where their names differ, and only there. -/
theorem forall_showsRegister_iff (h : bus.Declares b)
    (hnodup : (b.registers.map (·.address)).Nodup) (report : Report) :
    (∀ r ∈ b.registers, (capture report bus).ShowsRegister bus r) ↔
      (b.registers.map (·.name)).Nodup := by
  constructor
  · intro hall
    refine List.Nodup.map_on (fun r hr q hq hname => ?_) (List.Nodup.of_map _ hnodup)
    -- Of two with one name each has the greater address, so they are one.
    have hrq := (showsRegister_iff h hnodup hq report).1 (hall q hq) r hr hname
    have hqr := (showsRegister_iff h hnodup hr report).1 (hall r hr) q hq hname.symm
    exact List.inj_on_of_nodup_map hnodup hr hq (UInt64.le_antisymm hrq hqr)
  · intro hnames r hr
    refine (showsRegister_iff h hnodup hr report).2 fun q hq hname => ?_
    rw [List.inj_on_of_nodup_map hnames hq hr hname]
    exact UInt64.le_refl _

end Snapshot

/-! ## Main theorem -/

/-- A manifest that passes all checks though two of its registers share a name. -/
def homonymManifest : Manifest :=
  { Manifest.standard with
    board := { Board.h8_3067 with
      registers := [⟨"led", 0xFEE020, 2⟩, ⟨"led", 0xFEE010, 1⟩, ⟨"syscr", 0xFEE012, 9⟩] } }

/-- The checks let a board pass that has a register which no snapshot of its bus shows. -/
theorem register_lost : homonymManifest.validate = .ok () ∧ ∃ bus r,
    Bus.ofBoard homonymManifest.board = .ok bus ∧ r ∈ homonymManifest.board.registers ∧
    ¬ (Snapshot.capture .idle bus).ShowsRegister bus r := by
  have hbus : ∃ bus, Bus.ofBoard homonymManifest.board = .ok bus ∧
      (Snapshot.capture .idle bus).registers.find? "led" = some ⟨0xFEE020, 2⟩ := ⟨_, rfl, rfl⟩
  obtain ⟨bus, hbus, hshown⟩ := hbus
  refine ⟨rfl, bus, ⟨"led", 0xFEE010, 1⟩, hbus, by decide, ?_⟩
  rintro ⟨v, -, hv⟩
  rw [hshown] at hv
  cases hv

/-- For every manifest that passes all checks, on the bus for its board, whatever is written to it or
run on it: a snapshot shows a register unless one with its name has a greater address. So it shows all
registers of the board where their names differ, and only there. There is such a bus as long as there is
room for the histories. -/
theorem registers_shown {m : Manifest} (hvalid : m.validate = .ok ()) :
    (m.board.HasRoom → ∃ bus, Bus.ofBoard m.board = .ok bus) ∧
    ∀ bus, Bus.ofBoard m.board = .ok bus → ∀ bus' report, bus.Used bus' →
      (∀ r ∈ m.board.registers, (Snapshot.capture report bus').ShowsRegister bus' r ↔
        ∀ q ∈ m.board.registers, q.name = r.name → q.address ≤ r.address) ∧
      ((∀ r ∈ m.board.registers, (Snapshot.capture report bus').ShowsRegister bus' r) ↔
        (m.board.registers.map (·.name)).Nodup) := by
  refine ⟨fun hroom => ?_, fun bus hbus bus' report hused => ?_⟩
  · obtain ⟨bus, -, hbus, -⟩ := Manifest.attach_of_validate hroom hvalid
    exact ⟨bus, hbus⟩
  obtain ⟨hnodup, -⟩ := Bus.registers_ofBoard hbus
  have hdeclares : bus'.Declares m.board :=
    hused.keeps (P := (Bus.Declares · m.board)) Bus.Declares.write (Bus.declares_ofBoard hbus)
  exact ⟨fun r hr => Snapshot.showsRegister_iff hdeclares hnodup hr report,
    Snapshot.forall_showsRegister_iff hdeclares hnodup report⟩

/-- Of two registers with one name the one with the greater address is shown, and so is the one whose
name is its own. -/
theorem registers_shown_homonyms : ∃ bus, Bus.ofBoard homonymManifest.board = .ok bus ∧
    ∀ bus', bus.Used bus' →
      (Snapshot.capture .idle bus').ShowsRegister bus' ⟨"led", 0xFEE020, 2⟩ ∧
      ¬ (Snapshot.capture .idle bus').ShowsRegister bus' ⟨"led", 0xFEE010, 1⟩ ∧
      (Snapshot.capture .idle bus').ShowsRegister bus' ⟨"syscr", 0xFEE012, 9⟩ := by
  have hvalid : homonymManifest.validate = .ok () := rfl
  obtain ⟨hbus, hall⟩ := registers_shown hvalid
  obtain ⟨bus, hbus⟩ := hbus (by decide)
  refine ⟨bus, hbus, fun bus' hused => ?_⟩
  obtain ⟨hshown, -⟩ := hall bus hbus bus' .idle hused
  refine ⟨(hshown _ (by decide)).2 (by decide), fun h => ?_, (hshown _ (by decide)).2 (by decide)⟩
  exact absurd ((hshown _ (by decide)).1 h) (by decide)

end BlinkBench

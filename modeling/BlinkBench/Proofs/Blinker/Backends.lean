import BlinkBench.Proofs.Blinker.Alternation
import BlinkBench.Proofs.Blinker.Findings
import BlinkBench.Proofs.Blinker.Parts
import BlinkBench.Proofs.Bus.Slot
import BlinkBench.Proofs.IoPort.Outputs
/-!
# Ports and delays of all kinds

A blinker does not depend on its port or its delay, not even where a bus refuses its writes. And
ports of all kinds that take its writes have the same values in the end. `alike_on_all_ports` says so.
-/
namespace BlinkBench

namespace Port

/-- The value of a register of a port, as it is recorded or can be read. -/
def value? : Port → PortRegister → Option UInt8
  | recording p, .direction => p.directions.head?
  | recording p, .data => p.data.head?
  | memory l, r => some (l.get r)
  | bus p, r => (p.bus.read (p.address r)).toOption

/-- Whether a port takes what is written to it. On a bus, an I/O port has to be behind it. -/
def Takes : Port → Prop
  | recording _ | memory _ => True
  | bus p => p.OnIoPort

variable {p : Port} {writes : List PortWrite} {r : PortRegister} {v : UInt8}

theorem value?_write (hp : ∀ b, p ≠ .bus b) (w : PortWrite) (r : PortRegister) :
    (p.write w).value? r = if w.register = r then some w.value else p.value? r := by
  obtain ⟨_ | _, v⟩ := w <;> cases r <;> cases p <;> first | rfl | exact absurd rfl (hp _)

/-- Apart from a bus, a port has the value that was written last. -/
theorem value?_foldl_write (hp : ∀ b, p ≠ .bus b) :
    (writes.foldl write p).value? r = (valuesOf r writes).getLast?.or (p.value? r) := by
  induction writes generalizing p with
  | nil => rfl
  | cons w writes ih =>
    have hw : ∀ b, p.write w ≠ .bus b := by
      cases p with
      | recording | memory => simp [write]
      | bus b => exact absurd rfl (hp b)
    rw [List.foldl_cons, ih hw, value?_write hp]
    obtain ⟨r', v⟩ := w
    rw [valuesOf_cons]
    split
    · rw [List.getLast?_cons]
      cases (valuesOf r writes).getLast? <;> rfl
    · rfl

/-- An I/O port has it too, as long as all its pins are made outputs first and never anything else. -/
theorem value?_of_getLast? (hp : p.Takes)
    (hall : ∀ w ∈ writes, w.register = .direction → w.value = outputDirection)
    (hhead : ∀ w, writes.head? = some w → w = ⟨.direction, outputDirection⟩)
    (hv : (valuesOf r writes).getLast? = some v) : (writes.foldl write p).value? r = some v := by
  cases p with
  | recording | memory => rw [value?_foldl_write (by simp), hv, Option.some_or]
  | bus p =>
    obtain ⟨slot, io, rfl⟩ := BusPort.OnIoPort.exists_slot hp
    obtain ⟨hddr, hdr⟩ := IoPort.foldl_set_of_head io hall hhead
    have hvalue : (writes.foldl IoPort.set io).get r = v := by
      cases r with
      | direction =>
        obtain ⟨w, hw, rfl⟩ := List.mem_map.1 (List.mem_of_getLast? hv)
        obtain ⟨hw, hr⟩ := List.mem_filter.1 hw
        rw [hall w hw (by simpa using hr)]
        exact hddr (List.ne_nil_of_mem hw)
      | data => exact hdr v hv
    rw [foldl_bus, slot.writeAll]
    show ((slot.bus _).read _).toOption = _
    rw [slot.address_port, slot.read, hvalue]
    rfl

end Port

/-! ## Main theorem -/

/-- The last values on a record, as they are in a port that takes what is written to it. -/
theorem Setting.value?_of_operateAll? {ω : Type} [Environment ω] {w : ω} {fuel : Nat}
    {ops : List Operation} {s : Setting (Recorded ω)} {replies : List Reply}
    (hops : (onRecord w).operateAll? fuel ops = some (s, replies)) {port : ω → Port}
    (hpart : Part port Port.act) (hport : (port w).Takes) {r : PortRegister} {v : UInt8}
    (hv : (valuesOf r (portWrites s.world.actions)).getLast? = some v) :
    (port s.world.world).value? r = some v := by
  obtain ⟨n, hwrites⟩ := recorded_writes hops
  have hbehind := hpart.of_operateAll? hops
  rw [Port.foldl_act] at hbehind
  rw [hbehind]
  exact Port.value?_of_getLast? hport (fun _ => hwrites.direction_value) (hwrites.first rfl) hv

/-- Two fresh blinkers of which the same is asked, in worlds with any ports and delays, give the same
answers, do the same and become the same, if their runs find the same whenever they look. Their ports,
if they take what is written, have the values that were written last. -/
theorem alike_on_all_ports {ω υ : Type} [Environment ω] [Environment υ] {w : ω} {v : υ} {fuel : Nat}
    {ops : List Operation}
    (hfound : Setting.Agree ((Setting.onRecord w).findingsAll fuel ops)
      ((Setting.onRecord v).findingsAll fuel ops)) :
    ((Setting.onRecord w).operateAll? fuel ops).map Setting.seen =
      ((Setting.onRecord v).operateAll? fuel ops).map Setting.seen ∧
    ∀ {s replies}, (Setting.onRecord w).operateAll? fuel ops = some (s, replies) →
      ∃ t, (Setting.onRecord v).operateAll? fuel ops = some (t, replies) ∧
        ∀ {port : ω → Port} {port' : υ → Port}, Part port Port.act → Part port' Port.act →
          (port w).Takes → (port' v).Takes →
          ∀ r x, (valuesOf r (portWrites s.world.actions)).getLast? = some x →
            (port s.world.world).value? r = some x ∧ (port' t.world.world).value? r = some x := by
  have hsame := Setting.Matches.operateAll? (s := Setting.onRecord w) (t := Setting.onRecord v)
    ⟨rfl, rfl⟩ fuel hfound
  refine ⟨hsame, fun {s replies} hs => ?_⟩
  rw [hs, Option.map_some] at hsame
  obtain ⟨⟨t, replies'⟩, ht, hseen⟩ := Option.map_eq_some_iff.1 hsame.symm
  obtain ⟨-, hactions, rfl⟩ : t.blinker = s.blinker ∧ t.world.actions = s.world.actions ∧
      replies' = replies := by simpa [Setting.seen] using hseen
  refine ⟨t, ht, fun hpart hpart' hport hport' r x hx => ⟨?_, ?_⟩⟩
  · exact Setting.value?_of_operateAll? hs hpart hport hx
  · exact Setting.value?_of_operateAll? ht hpart' hport' (hactions ▸ hx)

/-- A bench with a recording, a sleeping delay and a fuse. -/
def recordingBench : Bench :=
  { fusedBench with delay := .sleep (.ofNanos 66) }

/-- A bench with the port of the board, a busy delay and the same fuse. -/
def boardBench : Bench :=
  { fusedBench with
    port := .bus ⟨.h8_3067, Board.h8PortBDirection, Board.h8PortBData⟩
    delay := .busy 0 }

/-- A bench with a port whose device refuses all writes, and the same fuse. -/
def refusingBench : Bench :=
  { fusedBench with
    port := .bus ⟨⟨[⟨"rom", 0x10, 0x11, .foreign (.latch true)⟩], .empty⟩, 0x10, 0x11⟩ }

/-- Someone listens to a delay, a run until the fuse is gone, and a toggle. -/
def fusedOps : List Operation :=
  [.observe 0, .pause, .run, .step]

theorem alike_on_all_ports_benches :
    ((Setting.onRecord recordingBench).operateAll? 5 fusedOps).map Setting.seen =
      ((Setting.onRecord refusingBench).operateAll? 5 fusedOps).map Setting.seen ∧
    ∃ s t replies, (Setting.onRecord recordingBench).operateAll? 5 fusedOps = some (s, replies) ∧
      (Setting.onRecord boardBench).operateAll? 5 fusedOps = some (t, replies) ∧
      s.world.world.port.value? .data = some 0xFF ∧ t.world.world.port.value? .data = some 0xFF := by
  have hrefused : Setting.Agree ((Setting.onRecord recordingBench).findingsAll 5 fusedOps)
      ((Setting.onRecord refusingBench).findingsAll 5 fusedOps) :=
    Setting.agree_of_eq (by decide +kernel)
  have hboard : Setting.Agree ((Setting.onRecord recordingBench).findingsAll 5 fusedOps)
      ((Setting.onRecord boardBench).findingsAll 5 fusedOps) :=
    Setting.agree_of_eq (by decide +kernel)
  have hvalues : ((Setting.onRecord recordingBench).operateAll? 5 fusedOps).map
      (fun e => (valuesOf .data (portWrites e.1.world.actions)).getLast?) = some (some 0xFF) := by
    decide +kernel
  have htakes : boardBench.port.Takes := by
    refine ⟨⟨"port_b", Board.h8PortBDirection, Board.h8PortBData, .io .standard⟩, .standard, rfl, ?_⟩
    rintro (_ | _) <;> rfl
  obtain ⟨⟨s, replies⟩, hs, hlast⟩ := Option.map_eq_some_iff.1 hvalues
  obtain ⟨t, ht, hall⟩ := (alike_on_all_ports hboard).2 hs
  exact ⟨(alike_on_all_ports hrefused).1, s, t, replies, hs, ht,
    hall Bench.port_part Bench.port_part trivial htakes .data 0xFF hlast⟩

end BlinkBench

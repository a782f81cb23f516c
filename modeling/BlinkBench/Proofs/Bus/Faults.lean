import BlinkBench.Proofs.Blinker.Parts
import BlinkBench.Proofs.Bus.Foreign
/-!
# Faults in the log

That nothing answers at an address of a port is found out when the port is attached, and never again:
where it was attached to a bus with nothing but I/O ports and plain registers, no write to it fails, and
the log tells of no fault, whatever is asked of a blinker on it or written past the blinker. A device of
another make that rejects all writes is told of once for each of them, for whatever reason it gives, and
nothing changes. `faults_found_on_attaching` says so.
-/
namespace BlinkBench

open Environment

/-- Whether a message tells of a write to a bus that has failed. -/
def Message.isFault : Message → Bool
  | .busFault .. => true
  | _ => false

/-- Whether a message tells of a write at an address that has failed. -/
def Message.isFaultAt (a : UInt64) : Message → Bool
  | .busFault _ address _ => address == a
  | _ => false

theorem Message.isFaultAt_of_not_isFault {m : Message} (h : m.isFault = false) (a : UInt64) :
    m.isFaultAt a = false := by
  cases m <;> first | rfl | cases h

/-! ## Attaching -/

/-- When a port can be attached to a bus, and what is said where it cannot. -/
structure Bus.Attaches (bus : Bus) : Prop where
  addresses : ∀ ddrAddress drAddress, (∃ p, BusPort.attachAt bus ddrAddress drAddress = .ok p) ↔
    bus.isMapped ddrAddress = true ∧ bus.isMapped drAddress = true
  /-- The address of the direction register is tried first. -/
  addressFault : ∀ ddrAddress drAddress fault,
    BusPort.attachAt bus ddrAddress drAddress = .error fault →
    fault = .memoryViolation (if bus.isMapped ddrAddress then drAddress else ddrAddress)
  name : ∀ name, (∃ p, BusPort.attach bus name = .ok p) ↔ ∃ q ∈ bus.ports, q.name = name
  nameFault : ∀ name fault, BusPort.attach bus name = .error fault → fault = .unmappedPort name

namespace Bus

variable {bus : Bus} {a : UInt64}

theorem isMapped_of_read {v : UInt8} (h : bus.read a = .ok v) : bus.isMapped a = true := by
  by_contra hfree
  rw [read_of_not_isMapped (by simpa using hfree)] at h
  cases h

theorem isMapped_of_mem {q : PortEntry} (hq : q ∈ bus.ports) (r : PortRegister) :
    bus.isMapped (q.address r) = true :=
  isMapped_iff.2 (.inl (mem_portAddresses.2 ⟨q, hq, r, rfl⟩))

end Bus

namespace BusPort

variable {bus : Bus} {ddrAddress drAddress : UInt64}

theorem attachAt_of_read (hddr : ∃ v, bus.read ddrAddress = .ok v)
    (hdr : ∃ v, bus.read drAddress = .ok v) :
    attachAt bus ddrAddress drAddress = .ok ⟨bus, ddrAddress, drAddress⟩ := by
  obtain ⟨v, hv⟩ := hddr
  obtain ⟨v', hv'⟩ := hdr
  rw [attachAt, hv, hv']
  rfl

theorem attachAt_of_isMapped (hio : bus.HasIoPorts) (hddr : bus.isMapped ddrAddress = true)
    (hdr : bus.isMapped drAddress = true) :
    attachAt bus ddrAddress drAddress = .ok ⟨bus, ddrAddress, drAddress⟩ :=
  attachAt_of_read (hio.read_of_isMapped hddr) (hio.read_of_isMapped hdr)

theorem attachAt_of_not_isMapped (h : bus.isMapped ddrAddress = false) (drAddress : UInt64) :
    attachAt bus ddrAddress drAddress = .error (.memoryViolation ddrAddress) := by
  rw [attachAt, Bus.read_of_not_isMapped h]
  rfl

theorem attachAt_of_data_not_isMapped (hio : bus.HasIoPorts) (hddr : bus.isMapped ddrAddress = true)
    (hdr : bus.isMapped drAddress = false) :
    attachAt bus ddrAddress drAddress = .error (.memoryViolation drAddress) := by
  obtain ⟨v, hv⟩ := hio.read_of_isMapped hddr
  rw [attachAt, hv, Bus.read_of_not_isMapped hdr]
  rfl

/-- What is attached at some addresses is at these addresses, which are mapped. -/
theorem attachAt_eq_ok {p : BusPort} (h : attachAt bus ddrAddress drAddress = .ok p) :
    p = ⟨bus, ddrAddress, drAddress⟩ ∧ bus.isMapped ddrAddress = true ∧
      bus.isMapped drAddress = true := by
  obtain ⟨v, hddr, h⟩ := bind_eq_ok h
  obtain ⟨v', hdr, h⟩ := bind_eq_ok h
  cases h
  exact ⟨rfl, Bus.isMapped_of_read hddr, Bus.isMapped_of_read hdr⟩

theorem attach_of_portEntry? (hio : bus.HasIoPorts) {name : String} {q : PortEntry}
    (h : bus.portEntry? name = some q) :
    attach bus name = .ok ⟨bus, q.ddrAddress, q.drAddress⟩ := by
  have hq : q ∈ bus.ports := List.mem_of_find?_eq_some h
  rw [attach, h]
  exact attachAt_of_isMapped hio (Bus.isMapped_of_mem hq .direction) (Bus.isMapped_of_mem hq .data)

theorem attach_of_none {name : String} (h : bus.portEntry? name = none) :
    attach bus name = .error (.unmappedPort name) := by
  rw [attach, h]

end BusPort

theorem Bus.HasIoPorts.attaches {bus : Bus} (hio : bus.HasIoPorts) : bus.Attaches where
  addresses ddrAddress drAddress := by
    constructor
    · rintro ⟨p, hp⟩
      exact (BusPort.attachAt_eq_ok hp).2
    · rintro ⟨hddr, hdr⟩
      exact ⟨_, BusPort.attachAt_of_isMapped hio hddr hdr⟩
  addressFault ddrAddress drAddress fault hfault := by
    cases hddr : bus.isMapped ddrAddress with
    | false =>
      rw [BusPort.attachAt_of_not_isMapped hddr] at hfault
      exact (Except.error.inj hfault).symm
    | true =>
      cases hdr : bus.isMapped drAddress with
      | false =>
        rw [BusPort.attachAt_of_data_not_isMapped hio hddr hdr] at hfault
        exact (Except.error.inj hfault).symm
      | true =>
        rw [BusPort.attachAt_of_isMapped hio hddr hdr] at hfault
        cases hfault
  name name := by
    have hfound : (∃ q ∈ bus.ports, q.name = name) ↔ (bus.portEntry? name).isSome = true := by
      unfold portEntry?
      simp [List.find?_isSome]
    rw [hfound]
    cases h : bus.portEntry? name with
    | none => simp [BusPort.attach_of_none h]
    | some q => simp [BusPort.attach_of_portEntry? hio h]
  nameFault name fault hfault := by
    cases h : bus.portEntry? name with
    | none =>
      rw [BusPort.attach_of_none h] at hfault
      exact (Except.error.inj hfault).symm
    | some q =>
      rw [BusPort.attach_of_portEntry? hio h] at hfault
      cases hfault

/-! ## Writes -/

theorem IoPort.isFault_changes {before after : IoPort} {m : Message}
    (hm : m ∈ before.changes after) : m.isFault = false := by
  unfold changes at hm
  split at hm
  · cases hm
  · rw [List.mem_singleton.1 hm]
    rfl

theorem Bus.isFault_writeMessages {bus : Bus} {a : UInt64} {v : UInt8} {m : Message}
    (hm : m ∈ bus.writeMessages a v) : m.isFault = false := by
  unfold writeMessages at hm
  split at hm
  · rename_i p r _
    rcases List.mem_cons.1 hm with rfl | hm
    · rfl
    · cases hdevice : p.device with
      | io port =>
        rw [hdevice] at hm
        exact IoPort.isFault_changes hm
      | foreign f =>
        rw [hdevice] at hm
        cases hm
  · cases hm

namespace BusPort

/-- A port on a bus with nothing but I/O ports and plain registers, both of whose addresses are mapped. -/
structure Safe (p : BusPort) : Prop where
  hasIoPorts : p.bus.HasIoPorts
  mapped : ∀ r, p.bus.isMapped (p.address r) = true

/-- What is written to a register goes to a device that rejects it. -/
def Refuses (p : BusPort) (r : PortRegister) : Prop :=
  ∃ q s, p.bus.portAt? (p.address r) = some (q, s) ∧ q.device.Rejects

/-- What the use of a port makes of it, and what it leaves in a log. -/
structure Leaves (p p' : BusPort) (writes : List PortWrite) (told : List Message) : Prop where
  address : ∀ r, p'.address r = p.address r
  safe : p.Safe → p'.Safe ∧ ∀ m ∈ told, m.isFault = false
  /-- A device that rejects all writes is where it was, as it was, and there is one fault for each write
  at its address. -/
  rejected : ∀ {a : UInt64} {q : PortEntry} {s : PortRegister}, p.bus.portAt? a = some (q, s) →
    q.device.Rejects → p'.bus.portAt? a = some (q, s) ∧
      told.countP (Message.isFaultAt a) = writes.countP fun w => p.address w.register == a
  /-- Where all writes go to such devices, the whole bus is as it was. -/
  kept : (∀ w ∈ writes, p.Refuses w.register) → p' = p

variable {p p' p'' : BusPort} {writes writes' : List PortWrite} {told told' : List Message}

theorem Leaves.append (h : p.Leaves p' writes told) (h' : p'.Leaves p'' writes' told') :
    p.Leaves p'' (writes ++ writes') (told ++ told') where
  address r := (h'.address r).trans (h.address r)
  safe hp := by
    obtain ⟨hp', hnone⟩ := h.safe hp
    obtain ⟨hp'', hnone'⟩ := h'.safe hp'
    exact ⟨hp'', fun m hm => (List.mem_append.1 hm).elim (hnone m) (hnone' m)⟩
  rejected hport hq := by
    obtain ⟨hport', hcount⟩ := h.rejected hport hq
    obtain ⟨hport'', hcount'⟩ := h'.rejected hport' hq
    refine ⟨hport'', ?_⟩
    simp only [h.address] at hcount'
    rw [List.countP_append, List.countP_append, hcount, hcount']
  kept hall := by
    have hfirst := h.kept fun w hw => hall w (List.mem_append_left _ hw)
    subst hfirst
    exact h'.kept fun w hw => hall w (List.mem_append_right _ hw)

theorem countP_isFaultAt (h : ∀ m ∈ told, m.isFault = false) (a : UInt64) :
    told.countP (Message.isFaultAt a) = 0 :=
  List.countP_eq_zero.2 fun m hm => by simp [Message.isFaultAt_of_not_isFault (h m hm)]

theorem leaves_of_quiet (p : BusPort) (h : ∀ m ∈ told, m.isFault = false) : p.Leaves p [] told where
  address _ := rfl
  safe hp := ⟨hp, h⟩
  rejected hport _ := ⟨hport, countP_isFaultAt h _⟩
  kept _ := rfl

theorem leaves_write (p : BusPort) (w : PortWrite) : p.Leaves (p.write w) [w] (p.writeMessages w) := by
  have hbus : ∀ m ∈ p.bus.writeMessages (p.address w.register) w.value, m.isFault = false :=
    fun m hm => Bus.isFault_writeMessages hm
  cases hwrite : p.bus.write (p.address w.register) w.value with
  | error fault =>
    have hp' : p.write w = p := by rw [write, hwrite]
    have htold : p.writeMessages w = p.bus.writeMessages (p.address w.register) w.value ++
        [.busFault w.value (p.address w.register) fault] := by
      rw [writeMessages, hwrite]
    rw [hp', htold]
    refine ⟨fun r => rfl, fun hp => ?_, fun hport hq => ⟨hport, ?_⟩, fun _ => rfl⟩
    · obtain ⟨bus', htaken⟩ := (hp.hasIoPorts.exists_write_iff w.value).2 (hp.mapped w.register)
      rw [hwrite] at htaken
      cases htaken
    · rw [List.countP_append, countP_isFaultAt hbus, Nat.zero_add]
      rfl
  | ok bus =>
    have hp' : p.write w = { p with bus } := by rw [write, hwrite]
    have htold : p.writeMessages w = p.bus.writeMessages (p.address w.register) w.value := by
      rw [writeMessages, hwrite, List.append_nil]
    have haddress : ∀ r, ({ p with bus } : BusPort).address r = p.address r := by
      rintro (_ | _) <;> rfl
    -- A device that rejects all writes has not taken this one.
    have htaken : ∀ {q s}, p.bus.portAt? (p.address w.register) = some (q, s) →
        ¬q.device.Rejects := by
      intro q s hport hq
      obtain ⟨fault, -, hfault⟩ := Bus.write_of_rejects hport hq w.value
      rw [hwrite] at hfault
      cases hfault
    rw [hp', htold]
    refine ⟨haddress, fun hp => ⟨⟨hp.hasIoPorts.write hwrite, fun r => ?_⟩, hbus⟩,
      fun {a q s} hport hq => ⟨Bus.portAt?_of_rejects hport hq hwrite, ?_⟩, fun hall => ?_⟩
    · rw [haddress, Bus.isMapped_of_write hwrite]
      exact hp.mapped r
    · have hne : p.address w.register ≠ a := by
        rintro rfl
        exact htaken hport hq
      rw [countP_isFaultAt hbus]
      simp [hne]
    · obtain ⟨q, s, hport, hq⟩ := hall w List.mem_cons_self
      exact absurd hq (htaken hport)

end BusPort

/-! ## Logs -/

/-- What a port and a blinker tell of an action. -/
def Port.told (p : Port) : Action → List Message
  | .write w => p.writeMessages w
  | .note message => [message]
  | .wait _ | .tell .. => []

/-- A world with a port and with a log of all that the port and the blinker tell. -/
structure Logs {ω : Type} [Environment ω] (port : ω → Port) (log : ω → List Message) : Prop where
  part : Part port Port.act
  log : ∀ w a, log (perform w a) = log w ++ (port w).told a

theorem Bench.logs : Logs Bench.port fun b => b.journal.reverse where
  part := Bench.port_part
  log b a := by
    cases a with
    | write w =>
      show (b.write w).journal.reverse = _
      have hjournal : (b.write w).journal = (b.port.writeMessages w).reverse ++ b.journal := by
        obtain ⟨_ | _, v⟩ := w
        · rfl
        · simp only [Bench.write, Bench.burn]
          split <;> rfl
      rw [hjournal, List.reverse_append, List.reverse_reverse]
      rfl
    | wait => exact (List.append_nil _).symm
    | tell observer e =>
      show (b.tell observer e).journal.reverse = _
      simp only [Bench.tell]
      split
      · exact (List.append_nil _).symm
      · split <;> exact (List.append_nil _).symm
    | note message => exact List.reverse_cons

/-- Whether an action puts no fault into the log, other than what a port tells. -/
def Action.isQuiet : Action → Bool
  | .note message => !message.isFault
  | _ => true

/-- Some actions put no fault into the log, other than what a port tells. -/
def Quiet (actions : List Action) : Prop :=
  ∀ a ∈ actions, a.isQuiet = true

theorem Quiet.append {l l' : List Action} (h : Quiet l) (h' : Quiet l') : Quiet (l ++ l') := by
  intro a ha
  exact (List.mem_append.1 ha).elim (h a) (h' a)

section Logs

variable {ω : Type} [Environment ω] {port : ω → Port} {log : ω → List Message} {p : BusPort}

theorem Logs.perform (h : Logs port log) {w : ω} (hport : port w = .bus p) {a : Action}
    (ha : a.isQuiet = true) : ∃ p' told, port (perform w a) = .bus p' ∧
      log (perform w a) = log w ++ told ∧ p.Leaves p' (portWrites [a]) told := by
  have hperform := h.part.perform w a
  have hlog := h.log w a
  rw [hport] at hperform hlog
  cases a with
  | write x => exact ⟨p.write x, _, hperform, hlog, p.leaves_write x⟩
  | wait | tell => exact ⟨p, [], hperform, hlog, p.leaves_of_quiet nofun⟩
  | note message =>
    refine ⟨p, [message], hperform, hlog, p.leaves_of_quiet fun m hm => ?_⟩
    rw [List.mem_singleton.1 hm]
    simpa [Action.isQuiet] using ha

theorem Logs.performAll (h : Logs port log) {actions : List Action} (hquiet : Quiet actions) {w : ω}
    (hport : port w = .bus p) : ∃ p' told, port (performAll w actions) = .bus p' ∧
      log (performAll w actions) = log w ++ told ∧ p.Leaves p' (portWrites actions) told := by
  induction actions generalizing w p with
  | nil => exact ⟨p, [], hport, (List.append_nil _).symm, p.leaves_of_quiet nofun⟩
  | cons a actions ih =>
    obtain ⟨p₁, told₁, hport₁, hlog₁, hleaves₁⟩ :=
      h.perform hport (hquiet a List.mem_cons_self)
    obtain ⟨p₂, told₂, hport₂, hlog₂, hleaves₂⟩ :=
      ih (fun b hb => hquiet b (List.mem_cons_of_mem a hb)) hport₁
    refine ⟨p₂, told₁ ++ told₂, hport₂, ?_, ?_⟩
    · rw [← List.append_assoc, ← hlog₁]
      exact hlog₂
    · rw [← List.singleton_append, portWrites_append]
      exact hleaves₁.append hleaves₂

end Logs

/-! ## What a blinker tells -/

namespace Blinker

theorem quiet_announce (b : Blinker) (e : Event) : Quiet (b.announce e) := by
  intro a ha
  obtain ⟨observer, -, rfl⟩ := List.mem_map.1 ha
  rfl

theorem quiet_setDirection (b : Blinker) : Quiet b.setDirection.2 := by
  refine Quiet.append ?_ (b.quiet_announce _)
  simp [Quiet, Action.isQuiet, Message.isFault]

theorem quiet_prepare (b : Blinker) : Quiet b.prepare.2 := by
  unfold prepare
  split
  · exact nofun
  · exact b.quiet_setDirection

theorem quiet_flip (b : Blinker) : Quiet b.flip.2 := by
  refine Quiet.append ?_ (b.quiet_announce _)
  simp [Quiet, Action.isQuiet, Message.isFault]

theorem quiet_pause (b : Blinker) : Quiet b.pause.2 := by
  refine Quiet.append ?_ (b.quiet_announce _)
  simp [Quiet, Action.isQuiet, delayOuter]

theorem quiet_step (b : Blinker) : Quiet b.step.2 :=
  (b.quiet_prepare.append (quiet_flip _)).append (quiet_pause _)

theorem quiet_start (b : Blinker) : Quiet b.start.2 := by
  refine (b.quiet_prepare.append (quiet_announce _ _)).append ?_
  simp [Quiet, Action.isQuiet, Message.isFault]

theorem quiet_finish (b : Blinker) (toggles : UInt64) (reason : StopReason) :
    Quiet (b.finish toggles reason).2 := by
  refine (b.quiet_announce _).append ?_
  simp [Quiet, Action.isQuiet, Message.isFault]

end Blinker

namespace Setting

variable {ω : Type} [Environment ω] {s t u : Setting ω}

/-- From one setting to another, nothing puts a fault into the log but what a port tells. -/
def Quietly (s t : Setting ω) : Prop :=
  ∃ actions, t.world = performAll s.world actions ∧ Quiet actions

theorem Quietly.trans (h : s.Quietly t) (h' : t.Quietly u) : s.Quietly u := by
  obtain ⟨before, hbefore, hquiet⟩ := h
  obtain ⟨behind, hbehind, hquiet'⟩ := h'
  exact ⟨before ++ behind, by rw [hbehind, hbefore, performAll_append], hquiet.append hquiet'⟩

theorem quietly_look (s : Setting ω) (k : Nat) : s.Quietly (s.look k) :=
  s.look_actions (P := fun _ => Quiet) s.blinker.quiet_start
    (fun k _ h => h.append (s.look k).blinker.quiet_step) k

theorem quietly_stop (s : Setting ω) (k : Nat) (reason : StopReason) :
    s.Quietly (s.stop k reason).1 := by
  obtain ⟨actions, hactions, hquiet⟩ := s.quietly_look k
  exact ⟨_, stop_world hactions reason, hquiet.append (Blinker.quiet_finish _ _ _)⟩

theorem Does.quietly {op : Operation} {reply : Reply} {k : Nat} (h : s.Does op t reply k) :
    s.Quietly t := by
  cases h with
  | observe => exact ⟨[], rfl, nofun⟩
  | setDirection => exact ⟨_, rfl, s.blinker.quiet_setDirection⟩
  | pause => exact ⟨_, rfl, s.blinker.quiet_pause⟩
  | step => exact ⟨_, rfl, s.blinker.quiet_step⟩
  | run | runBounded => exact s.quietly_stop k _

/-- What a setting may come to: something is asked of the blinker, or written to the port past it. A run
may be met at any look, whether it ends or not. -/
inductive Reaches (s : Setting ω) : Setting ω → Prop
  | refl : s.Reaches s
  | operate {t t' : Setting ω} {fuel : Nat} {op : Operation} {reply : Reply} (h : s.Reaches t)
    (hop : t.operate? fuel op = some (t', reply)) : s.Reaches t'
  | look {t : Setting ω} (h : s.Reaches t) (k : Nat) : s.Reaches (t.look k)
  | write {t : Setting ω} (h : s.Reaches t) (w : PortWrite) :
    s.Reaches (t.act (t.blinker, [.write w]))

theorem Reaches.quietly (h : s.Reaches t) : s.Quietly t := by
  induction h with
  | refl => exact ⟨[], rfl, nofun⟩
  | operate _ hop ih =>
    obtain ⟨k, hdoes⟩ := does_of_operate? hop
    exact ih.trans hdoes.quietly
  | look _ k ih => exact ih.trans (quietly_look _ k)
  | write _ w ih => exact ih.trans ⟨[.write w], rfl, by simp [Quiet, Action.isQuiet]⟩

end Setting

/-! ## Main theorem -/

namespace BusPort

/-- The port was attached to a bus, by its addresses or by its name. -/
def IsAttached (p : BusPort) (bus : Bus) : Prop :=
  (∃ ddrAddress drAddress, attachAt bus ddrAddress drAddress = .ok p) ∨
    ∃ name, attach bus name = .ok p

/-- However a port is used, in any world with a log: no fault is told, and the next write is taken. -/
def IsFaultless (p : BusPort) : Prop :=
  ∀ {ω : Type} [Environment ω] {port : ω → Port} {log : ω → List Message} {s t : Setting ω},
    Logs port log → port s.world = .bus p → s.Reaches t → ∃ p' told, port t.world = .bus p' ∧
      log t.world = log s.world ++ told ∧ (∀ m ∈ told, m.isFault = false) ∧
      ∀ w : PortWrite, ∃ bus', p'.bus.write (p'.address w.register) w.value = .ok bus'

/-- What comes of writes to devices that reject them. -/
structure TellsFaults (p : BusPort) : Prop where
  /-- Attaching asks for reads only, so such devices are no hindrance. -/
  attached : (∀ r, p.Refuses r) → p.IsAttached p.bus
  /-- A device that rejects all writes rejects this one, which is told once, with the reason that the
  device gives, and nothing changes. -/
  refused : ∀ (w : PortWrite) (q : PortEntry) (s : PortRegister),
    p.bus.portAt? (p.address w.register) = some (q, s) → q.device.Rejects → p.write w = p ∧
      ∃ fault, q.device.write ⟨s, w.value⟩ = .error fault ∧
        p.writeMessages w = [.portWritten q.name (p.address w.register) w.value,
          .busFault w.value (p.address w.register) fault]
  /-- However the port is used, there is one fault for each write to such a device. -/
  used : ∀ {ω : Type} [Environment ω] {port : ω → Port} {log : ω → List Message} {s t : Setting ω},
    Logs port log → port s.world = .bus p → s.Reaches t → ∃ actions p' told,
      t.world = performAll s.world actions ∧ port t.world = .bus p' ∧
      log t.world = log s.world ++ told ∧ p.Leaves p' (portWrites actions) told

variable {bus : Bus} {p : BusPort}

theorem IsAttached.eq (h : p.IsAttached bus) :
    p.bus = bus ∧ ∀ r, bus.isMapped (p.address r) = true := by
  have hat : ∀ {ddrAddress drAddress}, attachAt bus ddrAddress drAddress = .ok p →
      p.bus = bus ∧ ∀ r, bus.isMapped (p.address r) = true := by
    intro ddrAddress drAddress h
    obtain ⟨rfl, hddr, hdr⟩ := attachAt_eq_ok h
    refine ⟨rfl, ?_⟩
    rintro (_ | _)
    · exact hddr
    · exact hdr
  rcases h with ⟨ddrAddress, drAddress, h⟩ | ⟨name, h⟩
  · exact hat h
  · unfold attach at h
    split at h
    · exact hat h
    · cases h

theorem IsAttached.safe (h : p.IsAttached bus) (hio : bus.HasIoPorts) : p.Safe := by
  obtain ⟨rfl, hmapped⟩ := h.eq
  exact ⟨hio, hmapped⟩

theorem tellsFaults (p : BusPort) : p.TellsFaults where
  attached hall := by
    have hread : ∀ r, ∃ v, p.bus.read (p.address r) = .ok v := by
      intro r
      obtain ⟨q, s, hport, hq⟩ := hall r
      exact Bus.read_of_rejects hport hq
    exact .inl ⟨p.ddrAddress, p.drAddress, attachAt_of_read (hread .direction) (hread .data)⟩
  refused w q s hport hq := by
    obtain ⟨fault, hfault, hwrite⟩ := Bus.write_of_rejects hport hq w.value
    refine ⟨by rw [write, hwrite], fault, hfault, ?_⟩
    rw [writeMessages, hwrite, Bus.writeMessages, hport]
    simp only [hq.writeMessages, List.singleton_append]
  used hlogs hport hreaches := by
    obtain ⟨actions, hactions, hquiet⟩ := hreaches.quietly
    obtain ⟨p', told, hp', htold, hleaves⟩ := hlogs.performAll hquiet hport
    exact ⟨actions, p', told, hactions, hactions ▸ hp', hactions ▸ htold, hleaves⟩

theorem IsAttached.isFaultless (h : p.IsAttached bus) (hio : bus.HasIoPorts) : p.IsFaultless := by
  intro ω _ port log s t hlogs hport hreaches
  obtain ⟨actions, p', told, -, hp', htold, hleaves⟩ := p.tellsFaults.used hlogs hport hreaches
  obtain ⟨hsafe, hnone⟩ := hleaves.safe (h.safe hio)
  exact ⟨p', told, hp', htold, hnone, fun w =>
    (hsafe.hasIoPorts.exists_write_iff w.value).2 (hsafe.mapped w.register)⟩

end BusPort

/-- Where a port is attached to a bus with nothing but I/O ports and plain registers, its addresses and
its name are looked at, and this is enough: there are no faults ever after. On any other bus, a device
may reject all writes. Each of them leaves one fault in the log and nothing else. -/
theorem faults_found_on_attaching (bus : Bus) :
    (bus.HasIoPorts → bus.Attaches ∧ ∀ p : BusPort, p.IsAttached bus → p.IsFaultless) ∧
    ∀ p : BusPort, p.bus = bus → p.TellsFaults :=
  ⟨fun hio => ⟨hio.attaches, fun _ hp => hp.isFaultless hio⟩, fun p _ => p.tellsFaults⟩

/-- A bench with port B of the H8/3067. -/
def portBBench : Bench where
  port := .bus ⟨.h8_3067, Board.h8PortBDirection, Board.h8PortBData⟩
  delay := .idle 0

/-- A bus with a device that refuses writes. -/
def romBus : Bus :=
  ⟨[⟨"rom", 0x10, 0x11, .foreign (.latch true)⟩], .empty⟩

/-- A write past the blinker and three toggles on port B, and a write to a device that refuses it. -/
theorem faults_found_on_attaching_rom : Bus.h8_3067.HasIoPorts ∧
    (∃ p, BusPort.attach .h8_3067 "port_b" = .ok p ∧ portBBench.port = .bus p ∧
      ∃ t : Setting Bench, (⟨{}, portBBench⟩ : Setting Bench).Reaches t ∧
        t.blinker.toggles = 3 ∧ ∀ m ∈ t.world.journal, m.isFault = false) ∧
    ∃ q, BusPort.attach romBus "rom" = .ok q ∧ q.IsAttached romBus ∧ q.write ⟨.data, 0xFE⟩ = q ∧
      q.writeMessages ⟨.data, 0xFE⟩ = [.portWritten "rom" 0x11 0xFE,
        .busFault 0xFE 0x11 (.memoryViolation 1)] := by
  have hio : Bus.h8_3067.HasIoPorts := by
    intro p hp
    obtain rfl := List.mem_singleton.1 hp
    exact ⟨_, rfl⟩
  refine ⟨hio, ⟨_, rfl, rfl, ?_⟩, ?_⟩
  · obtain ⟨-, hfaultless⟩ := (faults_found_on_attaching .h8_3067).1 hio
    have hstart : (⟨{}, portBBench⟩ : Setting Bench).Reaches ⟨{}, portBBench⟩ := .refl
    have hwritten := hstart.write ⟨.direction, 1⟩
    have hrun := hwritten.operate (rfl : Setting.operate? 0 _ (.runBounded 3) = some _)
    obtain ⟨-, told, -, htold, hnone, -⟩ := hfaultless _ (.inr ⟨"port_b", rfl⟩) Bench.logs rfl hrun
    refine ⟨_, hrun, rfl, fun m hm => hnone m ?_⟩
    have hall : told = List.reverse _ := htold.symm
    rw [hall]
    exact List.mem_reverse.2 hm
  · obtain ⟨-, htells⟩ := faults_found_on_attaching romBus
    have hrom := htells ⟨romBus, 0x10, 0x11⟩ rfl
    have hattached := hrom.attached fun r => by cases r <;> exact ⟨_, _, rfl, Foreign.rejects_latch⟩
    obtain ⟨hkept, fault, hfault, htold⟩ := hrom.refused ⟨.data, 0xFE⟩ _ _ rfl Foreign.rejects_latch
    obtain rfl : .memoryViolation 1 = fault := Except.error.inj hfault
    exact ⟨_, rfl, hattached, hkept, htold⟩

end BlinkBench

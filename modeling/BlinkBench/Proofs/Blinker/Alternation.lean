import BlinkBench.Bench
import BlinkBench.Proofs.Blinker.Runs
/-!
# Low and high in turn

Whatever is asked of a blinker, and wherever its runs are cancelled, its port gets low and high in
turn, one value for each toggle of its whole life, and is made an output before the first of them.
`writes_alternate` says so of every list of operations on a fresh blinker.
-/
namespace BlinkBench

open Environment

/-! ## One operation -/

namespace Operation

/-- Whether an operation makes all pins outputs if that was not done before. -/
def prepares : Operation → Bool
  | .step | .run | .runBounded _ => true
  | .observe _ | .setDirection | .pause => false

/-- Whether all pins are outputs behind an operation, whatever they were before. -/
def settles : Operation → Bool
  | .setDirection => true
  | op => op.prepares

/-- The calls of an operation before its toggles. -/
def opening (initialized : Bool) : Operation → List Action
  | .setDirection => openingCalls false
  | op => openingCalls (initialized || !op.prepares)

/-- The calls of an operation behind its toggles. -/
def closing : Operation → List Action
  | .pause => delayCalls
  | _ => []

end Operation

/-- What an operation of `k` toggles makes of a blinker. -/
structure Blinker.Advances (b b' : Blinker) (op : Operation) (k : Nat) : Prop where
  initialized : b'.initialized = (b.initialized || op.settles)
  state : b'.state = PinState.after b.state k
  toggles : b'.toggles = b.toggles + UInt64.ofNat k
  /-- Only what makes all pins outputs toggles. -/
  prepared : op.prepares = false → k = 0

namespace Setting

variable {ω : Type} [Environment ω] {history : ω → List Action} {s s' : Setting ω} {fuel : Nat}

theorem stop_advances (s : Setting ω) (k : Nat) (reason : StopReason) {op : Operation}
    (hop : op.prepares = true) : s.blinker.Advances (s.stop k reason).1.blinker op k where
  initialized := by
    cases op <;> simp_all [Operation.settles, Operation.prepares, look_initialized]
  state := by simp [look_state]
  toggles := by simp [look_toggles]
  prepared h := by simp [hop] at h

theorem stop_calls (h : Chronicle history) (s : Setting ω) (k : Nat) (reason : StopReason)
    {op : Operation} (hop : op.prepares = true) :
    calls (history (s.stop k reason).1.world) = calls (history s.world) ++
      op.opening s.blinker.initialized ++
      (PinState.patterns s.blinker.state k).flatMap toggleCalls ++ op.closing := by
  rw [calls_stop h, ← List.append_assoc]
  cases op <;> simp_all [Operation.opening, Operation.closing, Operation.prepares]

/-- What an operation makes of the blinker. -/
theorem Does.advances {op : Operation} {reply : Reply} {k : Nat} (h : s.Does op s' reply k) :
    s.blinker.Advances s'.blinker op k := by
  cases h with
  | observe =>
    exact ⟨by simp [Operation.settles, Operation.prepares, Blinker.observe], rfl,
      by simp [Blinker.observe], fun _ => rfl⟩
  | setDirection => exact ⟨by simp [Operation.settles], rfl, by simp, fun _ => rfl⟩
  | pause =>
    exact ⟨by simp [Operation.settles, Operation.prepares], by simp [PinState.after], by simp,
      fun _ => rfl⟩
  | step =>
    exact ⟨by simp [Operation.settles, Operation.prepares], by simp [PinState.after], by simp,
      by simp [Operation.prepares]⟩
  | run | runBounded => exact stop_advances s k _ rfl

/-- What an operation has the port and the delay do. -/
theorem Does.calls (h : Chronicle history) {op : Operation} {reply : Reply} {k : Nat}
    (hdoes : s.Does op s' reply k) : calls (history s'.world) =
      calls (history s.world) ++ op.opening s.blinker.initialized ++
        (PinState.patterns s.blinker.state k).flatMap toggleCalls ++ op.closing := by
  cases hdoes with
  | observe => simp [Operation.opening, Operation.closing, Operation.prepares, openingCalls]
  | setDirection =>
    rw [Setting.setDirection, calls_act h, Blinker.calls_setDirection]
    simp [Operation.opening, Operation.closing]
  | pause =>
    rw [Setting.pause, calls_act h, Blinker.calls_pause]
    simp [Operation.opening, Operation.closing, Operation.prepares, openingCalls]
  | step =>
    rw [Setting.step, calls_act h, Blinker.calls_step]
    simp [Operation.opening, Operation.closing, Operation.prepares, PinState.patterns_succ,
      PinState.after]
  | run | runBounded => exact stop_calls h s k _ rfl

end Setting

/-! ## Operations one after another -/

/-- How often operations write to the direction register. -/
def directionCount (initialized : Bool) : List Operation → Nat
  | [] => 0
  | op :: ops =>
    (portWrites (op.opening initialized)).length + directionCount (initialized || op.settles) ops

theorem directionCount_true (ops : List Operation) :
    directionCount true ops = ops.count .setDirection := by
  induction ops with
  | nil => rfl
  | cons op ops ih =>
    simp only [directionCount, Bool.true_or, ih, List.count_cons]
    cases op <;> simp [Operation.opening, portWrites_openingCalls]
    omega

/-- A blinker that was not prepared is prepared once without being asked to, if at all. -/
theorem directionCount_false (ops : List Operation) :
    directionCount false ops = ops.count .setDirection +
      if (ops.takeWhile (· ≠ .setDirection)).any Operation.prepares then 1 else 0 := by
  induction ops with
  | nil => rfl
  | cons op ops ih =>
    cases op <;>
      simp [directionCount, Operation.opening, Operation.settles, Operation.prepares,
        portWrites_openingCalls, directionCount_true, ih, Nat.add_comm]

/-- Where some operation makes all pins outputs, the direction register is written. -/
theorem directionCount_false_pos {ops : List Operation} (h : ops.any Operation.settles = true) :
    0 < directionCount false ops := by
  induction ops with
  | nil => cases h
  | cons op ops ih =>
    rw [List.any_cons] at h
    rw [directionCount, Bool.false_or]
    cases hop : op.settles with
    | true =>
      have hone : (portWrites (op.opening false)).length = 1 := by
        cases op <;> first | rfl | cases hop
      omega
    | false =>
      rw [hop, Bool.false_or] at h
      have := ih h
      omega

/-- What operations of `n` toggles write, and what they make of a blinker. -/
structure Blinker.Writes (b b' : Blinker) (ops : List Operation) (writes : List PortWrite)
    (n : Nat) : Prop where
  data : valuesOf .data writes = PinState.patterns b.state n
  direction : valuesOf .direction writes =
    List.replicate (directionCount b.initialized ops) outputDirection
  /-- A port gets no data before it is made an output. -/
  first : b.initialized = false → ∀ w, writes.head? = some w → w = ⟨.direction, outputDirection⟩
  state : b'.state = PinState.after b.state n
  toggles : b'.toggles = b.toggles + UInt64.ofNat n
  prepared : n ≠ 0 → b'.initialized = true
  kept : b.initialized = true → b'.initialized = true

theorem mem_valuesOf {r : PortRegister} {w : PortWrite} {writes : List PortWrite} (hw : w ∈ writes)
    (hr : w.register = r) : w.value ∈ valuesOf r writes :=
  List.mem_map.2 ⟨w, List.mem_filter.2 ⟨hw, by simpa using hr⟩, rfl⟩

namespace Blinker

variable {b b' b'' : Blinker} {op : Operation} {ops : List Operation}

/-- The direction register gets nothing but that all pins are outputs. -/
theorem Writes.direction_value {writes : List PortWrite} {n : Nat} (h : b.Writes b' ops writes n)
    {w : PortWrite} (hw : w ∈ writes) (hr : w.register = .direction) : w.value = outputDirection := by
  have hv := mem_valuesOf hw hr
  rw [h.direction] at hv
  exact (List.mem_replicate.1 hv).2

theorem Writes.nil (b : Blinker) : b.Writes b [] [] 0 where
  data := by simp
  direction := by simp [directionCount]
  first := by simp
  state := rfl
  toggles := by simp
  prepared := by simp
  kept := id

/-- The writes of an operation are those of its opening, and then those of its toggles. -/
def opWrites (b : Blinker) (op : Operation) (k : Nat) : List PortWrite :=
  portWrites (op.opening b.initialized) ++ (PinState.patterns b.state k).map (⟨.data, ·⟩)

theorem valuesOf_data_opWrites (b : Blinker) (op : Operation) (k : Nat) :
    valuesOf .data (b.opWrites op k) = PinState.patterns b.state k := by
  have htoggles : valuesOf .data ((PinState.patterns b.state k).map (⟨.data, ·⟩)) =
      PinState.patterns b.state k := by
    simp [valuesOf, List.filter_map, Function.comp_def]
  rw [opWrites, valuesOf_append, htoggles]
  cases op <;> simp [Operation.opening, portWrites_openingCalls] <;> split <;> simp

theorem valuesOf_direction_opWrites (b : Blinker) (op : Operation) (k : Nat) :
    valuesOf .direction (b.opWrites op k) =
      List.replicate (portWrites (op.opening b.initialized)).length outputDirection := by
  have htoggles : valuesOf .direction ((PinState.patterns b.state k).map (⟨.data, ·⟩)) = [] := by
    simp [valuesOf]
  rw [opWrites, valuesOf_append, htoggles]
  cases op <;> simp [Operation.opening, portWrites_openingCalls] <;> split <;> simp

/-- Where an operation writes anything on a port that is not prepared, it prepares it first. -/
theorem opWrites_head (h : b.Advances b' op k) (hb : b.initialized = false) :
    (b.opWrites op k = [] ∧ b'.initialized = false) ∨
      (b.opWrites op k).head? = some ⟨.direction, outputDirection⟩ := by
  have hi := h.initialized
  have hp := h.prepared
  cases op <;>
    simp_all [opWrites, Operation.opening, Operation.settles, Operation.prepares,
      portWrites_openingCalls]

/-- The writes of an operation come before those of the operations behind it. -/
theorem Writes.cons {k n : Nat} {writes : List PortWrite} (h : b.Advances b' op k)
    (hw : b'.Writes b'' ops writes n) :
    b.Writes b'' (op :: ops) (b.opWrites op k ++ writes) (k + n) where
  data := by
    rw [valuesOf_append, valuesOf_data_opWrites, hw.data, h.state, PinState.patterns_add]
  direction := by
    rw [valuesOf_append, valuesOf_direction_opWrites, hw.direction, h.initialized,
      List.replicate_append_replicate, directionCount]
  first hb w hw' := by
    rcases opWrites_head h hb with ⟨hnil, hb'⟩ | hhead
    · rw [hnil, List.nil_append] at hw'
      exact hw.first hb' w hw'
    · rw [List.head?_append, hhead] at hw'
      exact (Option.some.inj hw').symm
  state := by rw [hw.state, h.state, PinState.after_add]
  toggles := by rw [hw.toggles, h.toggles, UInt64.ofNat_add, UInt64.add_assoc]
  prepared hne := by
    -- Either a later operation toggles, or this one does, and no operation takes this back.
    by_cases hn : n = 0
    · refine hw.kept ?_
      have hp : op.prepares = true := by
        by_contra hf
        have := h.prepared (by simpa using hf)
        omega
      rw [h.initialized]
      cases op <;> simp_all [Operation.settles, Operation.prepares]
    · exact hw.prepared hn
  kept hb := hw.kept (by rw [h.initialized, hb, Bool.true_or])

end Blinker

namespace Setting

variable {ω : Type} [Environment ω] {history : ω → List Action} {s s' : Setting ω} {fuel : Nat}

theorem operateAll?_initialized {ops : List Operation} {replies : List Reply}
    (hops : s.operateAll? fuel ops = some (s', replies)) :
    s'.blinker.initialized = (s.blinker.initialized || ops.any Operation.settles) := by
  induction ops generalizing s replies with
  | nil =>
    cases hops
    simp
  | cons op ops ih =>
    obtain ⟨mid, reply, rest, hop, hops, -⟩ := operateAll?_cons.1 hops
    obtain ⟨k, hdoes⟩ := does_of_operate? hop
    rw [ih hops, hdoes.advances.initialized, List.any_cons, Bool.or_assoc]

theorem operateAll?_writes (h : Chronicle history) {ops : List Operation} {replies : List Reply}
    (hops : s.operateAll? fuel ops = some (s', replies)) : ∃ n writes,
      s.blinker.Writes s'.blinker ops writes n ∧
        portWrites (history s'.world) = portWrites (history s.world) ++ writes := by
  induction ops generalizing s replies with
  | nil =>
    cases hops
    exact ⟨0, [], .nil _, by simp⟩
  | cons op ops ih =>
    obtain ⟨s₁, reply, rest, hop, hops, -⟩ := operateAll?_cons.1 hops
    obtain ⟨k, hdoes⟩ := does_of_operate? hop
    have hk := hdoes.advances
    have hcalls := hdoes.calls h
    obtain ⟨n, writes, hn, hwrites⟩ := ih hops
    refine ⟨k + n, _, hn.cons hk, ?_⟩
    -- What the first operation writes goes before what the others write from where it has ended.
    have hone : portWrites (history s₁.world) =
        portWrites (history s.world) ++ s.blinker.opWrites op k := by
      rw [← portWrites_calls, hcalls]
      have hclosing : portWrites op.closing = [] := by cases op <;> rfl
      simp [portWrites_calls, portWrites_toggles, hclosing, Blinker.opWrites]
    rw [hwrites, hone, List.append_assoc]

/-- All that a blinker writes is on the record. -/
theorem recorded_writes {b : Blinker} {world : ω} {ops : List Operation} {s : Setting (Recorded ω)}
    {replies : List Reply}
    (hops : (⟨b, ⟨world, []⟩⟩ : Setting (Recorded ω)).operateAll? fuel ops = some (s, replies)) :
    ∃ n, b.Writes s.blinker ops (portWrites s.world.actions) n := by
  obtain ⟨n, writes, hwrites, hall⟩ := operateAll?_writes Recorded.chronicle hops
  have heq : portWrites s.world.actions = writes := by simpa [portWrites] using hall
  exact ⟨n, heq ▸ hwrites⟩

end Setting

/-! ## A whole life -/

/-- What the port of a blinker has got in its whole life so far, and what the blinker says of it.
Directions are written where that was asked for, and once more if a toggle or a run came first. -/
structure Alternates (ops : List Operation) (b : Blinker) (writes : List PortWrite) : Prop where
  direction : ∀ w ∈ writes, w.register = .direction → w.value = 0xFF
  first : ∀ before v behind, writes = before ++ ⟨.data, v⟩ :: behind →
    ∃ w ∈ before, w.register = .direction
  data : valuesOf .data writes =
    (List.range (valuesOf .data writes).length).map fun k => if k % 2 = 0 then 0xFE else 0xFF
  directions : (valuesOf .direction writes).length = ops.count .setDirection +
    if (ops.takeWhile (· ≠ .setDirection)).any Operation.prepares then 1 else 0
  counted : (valuesOf .data writes).length < UInt64.size →
    b.toggles.toNat = (valuesOf .data writes).length ∧
      (b.state = none ↔ b.toggles.toNat = 0) ∧
      (b.state = some .low ↔ b.toggles.toNat % 2 = 1) ∧
      (0 < b.toggles.toNat → b.initialized = true)

theorem Blinker.Writes.alternates {b : Blinker} {ops : List Operation} {writes : List PortWrite}
    {n : Nat} (h : ({} : Blinker).Writes b ops writes n) : Alternates ops b writes := by
  have hn : (valuesOf .data writes).length = n := by simp [h.data]
  refine ⟨fun w hw hr => ?_, fun before v behind hsplit => ?_, ?_, ?_, fun hlt => ?_⟩
  · exact h.direction_value hw hr
  · cases before with
    | nil =>
      have := h.first rfl ⟨.data, v⟩ (by simp [hsplit])
      cases this
    | cons w before =>
      exact ⟨w, List.mem_cons_self, by rw [h.first rfl w (by simp [hsplit])]⟩
  · rw [hn, h.data]
    exact PinState.patterns_none n
  · rw [h.direction, List.length_replicate]
    exact directionCount_false ops
  · have ht : b.toggles.toNat = n := by
      rw [h.toggles]
      simp only [UInt64.toNat_add, UInt64.toNat_ofNat']
      simp only [UInt64.toNat_zero, Nat.zero_add, Nat.mod_mod]
      exact Nat.mod_eq_of_lt (hn ▸ hlt)
    have hs : b.state = PinState.after none n := h.state
    rw [hn, ht, hs, PinState.after_none]
    refine ⟨rfl, by grind, by grind, fun hpos => h.prepared (by omega)⟩

/-- Whatever is asked of a fresh blinker in any world, as long as all its runs end: low and high
take turns on its port from the first toggle to the last, behind a direction. The writes are those
of the same operations in the same world with a record. -/
theorem writes_alternate {ω : Type} [Environment ω] {fuel : Nat} {world : ω} {ops : List Operation}
    {s : Setting ω} {replies : List Reply}
    (h : (⟨{}, world⟩ : Setting ω).operateAll? fuel ops = some (s, replies)) :
    ∃ actions, (⟨{}, ⟨world, []⟩⟩ : Setting (Recorded ω)).operateAll? fuel ops =
      some (⟨s.blinker, ⟨s.world, actions⟩⟩, replies) ∧
      Alternates ops s.blinker (portWrites actions) := by
  obtain ⟨actions, hrec⟩ := Recorded.operateAll? h
  obtain ⟨n, writes, hw, hall⟩ := Setting.operateAll?_writes Recorded.chronicle hrec
  refine ⟨actions, hrec, ?_⟩
  have heq : portWrites actions = writes := by simpa [portWrites] using hall
  exact heq ▸ hw.alternates

/-- A bench whose fuse is gone behind the third write. -/
def fusedBench : Bench where
  port := .recording {}
  delay := .idle 0
  fuse := some ⟨3, 0⟩

/-- Two toggles by their number, a direction, and one toggle more until the fuse is gone. -/
theorem writes_alternate_fusedBench : ∃ s replies,
    (⟨{}, fusedBench⟩ : Setting Bench).operateAll? 5 [.runBounded 2, .setDirection, .run] =
      some (s, replies) ∧
      s.world.port = .recording ⟨[0xFF, 0xFF], [0xFE, 0xFF, 0xFE]⟩ ∧
      ∃ actions, (⟨{}, ⟨fusedBench, []⟩⟩ : Setting (Recorded Bench)).operateAll? 5
          [.runBounded 2, .setDirection, .run] = some (⟨s.blinker, ⟨s.world, actions⟩⟩, replies) ∧
        Alternates [.runBounded 2, .setDirection, .run] s.blinker (portWrites actions) :=
  ⟨_, _, rfl, rfl, writes_alternate rfl⟩

end BlinkBench

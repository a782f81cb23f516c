import BlinkBench.Proofs.IoPort.Accesses
/-!
# Single pins

Each pin of an I/O port is a latch of its own, whose level depends on nothing that happens to the other
pins. `pins_latch` says what it shows in terms of all that happened since a reset: an output what was
last written to it since it became one, an input what is driven from outside.
-/
namespace BlinkBench.IoPort

/-! ## Bits -/

/-- The bit of a pin in a byte. -/
def bit (k : Fin 8) (v : UInt8) : Bool :=
  v.toBitVec.getLsbD k

variable {k : Fin 8}

@[simp] theorem bit_zero : bit k 0 = false := by
  simp [bit]

@[simp] theorem bit_and (v w : UInt8) : bit k (v &&& w) = (bit k v && bit k w) := by
  simp [bit]

@[simp] theorem bit_not (v : UInt8) : bit k (~~~v) = !bit k v := by
  simp [bit]

/-- An output has its own level and an input the one that is driven. -/
@[simp] theorem bit_mix (ddr levels driven : UInt8) :
    bit k (mix ddr levels driven) = if bit k ddr then bit k levels else bit k driven := by
  have hk := k.isLt
  simp only [bit, mix, UInt8.toBitVec_or, UInt8.toBitVec_and, UInt8.toBitVec_not, BitVec.getLsbD_or,
    BitVec.getLsbD_and, BitVec.getLsbD_not, hk, decide_true, Bool.true_and]
  grind

theorem bit_getD {v w : UInt8} (h : bit k v = bit k w) (x : Option UInt8) :
    bit k (x.getD v) = bit k (x.getD w) := by
  cases x with
  | none => exact h
  | some u => rfl

/-! ## A pin as a machine of its own -/

/-- What one pin has in the registers and at the output, and from outside. -/
structure Pin where
  isOutput : Bool
  level : Bool
  output : Bool
  driven : Bool
deriving DecidableEq

/-- What an input of a port is for one pin. -/
inductive Pin.Input where
  /-- A write at an offset. -/
  | write (offset : UInt64) (level : Bool)
  /-- The pin is driven. -/
  | drive (level : Bool)

/-- A pin behind an input. -/
def Pin.feed (pin : Pin) : Pin.Input → Pin
  | .write offset b =>
    match PortRegister.ofOffset? offset with
    | some .direction =>
      let level := if b then pin.level else pin.driven
      { pin with isOutput := b, level, output := level && b }
    | some .data =>
      { pin with level := if pin.isOutput then b else pin.driven, output := b && pin.isOutput }
    | none => pin
  | .drive b => { pin with level := if pin.isOutput then pin.level else b, driven := b }

def Input.felt (k : Fin 8) : Input → Pin.Input
  | .write offset value => .write offset (bit k value)
  | .drive levels => .drive (bit k levels)

def pin (p : IoPort) (k : Fin 8) : Pin :=
  ⟨bit k p.ddr, bit k p.dr, bit k p.output, bit k p.input⟩

theorem pin_feed (p : IoPort) (i : Input) (k : Fin 8) :
    (p.feed i).pin k = (p.pin k).feed (i.felt k) := by
  cases i with
  | write offset v =>
    rw [Input.felt, Pin.feed]
    cases hr : PortRegister.ofOffset? offset with
    | none => rw [feed_of_ofOffset?_eq_none hr]
    | some r =>
      rw [PortRegister.ofOffset?_eq_some hr, feed_write]
      cases r with
      | direction => simp [pin, set, settle]
      | data =>
        simp only [pin, set, settle, bit_mix, bit_and]
        rfl
  | drive levels =>
    simp only [pin, feed, drive, bit_mix]
    rfl

theorem pin_foldl (p : IoPort) (inputs : List Input) (k : Fin 8) :
    (inputs.foldl feed p).pin k = (inputs.map (·.felt k)).foldl Pin.feed (p.pin k) := by
  induction inputs generalizing p with
  | nil => rfl
  | cons i inputs ih => rw [List.foldl_cons, ih, pin_feed, List.map_cons, List.foldl_cons]

/-! ## Directions -/

/-- The direction register behind some inputs: what was written to it last. -/
def direction (inputs : List Input) : UInt8 :=
  (written .direction inputs).getLast?.getD 0

theorem written_cons (r : PortRegister) (i : Input) (inputs : List Input) :
    written r (i :: inputs) = (i.written? r).toList ++ written r inputs := by
  cases h : i.written? r <;> simp [written, h]

theorem getLast?_toList_append {α : Type} (x : Option α) (l : List α) (a : α) :
    (x.toList ++ l).getLast?.getD a = l.getLast?.getD (x.getD a) := by
  cases x with
  | none => rfl
  | some b =>
    rw [Option.toList_some, List.singleton_append, List.getLast?_cons]
    rfl

theorem written_append (r : PortRegister) (inputs more : List Input) :
    written r (inputs ++ more) = written r inputs ++ written r more :=
  List.filterMap_append

theorem written?_eq_some {r : PortRegister} {i : Input} {v : UInt8} :
    i.written? r = some v ↔ i = .write r.offset v := by
  cases i with
  | write offset w => simp [Input.written?]
  | drive levels => simp [Input.written?]

theorem direction_concat (inputs : List Input) (i : Input) :
    direction (inputs ++ [i]) = (i.written? .direction).getD (direction inputs) := by
  rw [direction, written_append, written_cons]
  cases i.written? .direction with
  | none => simp [written, direction]
  | some v => simp [written]

theorem ddr_feed (p : IoPort) (i : Input) :
    (p.feed i).ddr = (i.written? .direction).getD p.ddr := by
  cases i with
  | write offset v =>
    cases hr : PortRegister.ofOffset? offset with
    | none =>
      have hne := PortRegister.ofOffset?_eq_none.1 hr .direction
      rw [feed_of_ofOffset?_eq_none hr, Input.written?, if_neg hne, Option.getD_none]
    | some r =>
      obtain rfl := PortRegister.ofOffset?_eq_some hr
      rw [feed_write]
      cases r <;> rfl
  | drive levels => rfl

theorem ddr_foldl (p : IoPort) (inputs : List Input) :
    (inputs.foldl feed p).ddr = (written .direction inputs).getLast?.getD p.ddr := by
  induction inputs generalizing p with
  | nil => rfl
  | cons i inputs ih =>
    rw [List.foldl_cons, ih, ddr_feed, written_cons, getLast?_toList_append]

theorem ddr_after (limit : Nat) (inputs : List Input) :
    (after limit inputs).ddr = direction inputs :=
  ddr_foldl (new limit) inputs

/-- A pin was an input behind some inputs of its port. Then it was made an output, and it has been one
since. -/
structure OutputSince (k : Fin 8) (before : List Input) (turn : UInt8) (behind : List Input) :
    Prop where
  was : bit k (direction before) = false
  turns : bit k turn = true
  stays : ∀ v ∈ written .direction behind, bit k v = true

/-- A pin that is an output was made one, and there is a last time that it was. -/
theorem exists_outputSince {inputs : List Input} (h : bit k (direction inputs) = true) :
    ∃ before turn behind, inputs = before ++ .write PortRegister.direction.offset turn :: behind ∧
      OutputSince k before turn behind := by
  induction inputs using List.reverseRecOn with
  | nil => simp [direction, written] at h
  | append_singleton inputs i ih =>
    rw [direction_concat] at h
    by_cases hwas : bit k (direction inputs) = true
    · -- It was an output before, and the last input has not changed that.
      obtain ⟨before, turn, behind, rfl, hsince⟩ := ih hwas
      refine ⟨before, turn, behind ++ [i], by simp, hsince.was, hsince.turns, fun v hv => ?_⟩
      rw [written_append, List.mem_append, written_cons] at hv
      rcases hv with hv | hv
      · exact hsince.stays v hv
      · have hi : i.written? .direction = some v := by simpa [written] using hv
        rwa [hi] at h
    · -- It was an input, so the last input has made it an output.
      cases hi : i.written? .direction with
      | none =>
        rw [hi] at h
        exact absurd h hwas
      | some turn =>
        rw [hi] at h
        refine ⟨inputs, turn, [], by rw [written?_eq_some.1 hi], by simpa using hwas, h, ?_⟩
        simp [written]

/-! ## Levels -/

/-- An output feels what is written to the data register, and nothing else. -/
theorem bit_dr_feed {p : IoPort} {i : Input} (hp : bit k p.ddr = true)
    (hstays : ∀ v, i.written? .direction = some v → bit k v = true) :
    bit k (p.feed i).dr = bit k ((i.written? .data).getD p.dr) := by
  cases i with
  | write offset v =>
    cases hr : PortRegister.ofOffset? offset with
    | none =>
      have hne := PortRegister.ofOffset?_eq_none.1 hr .data
      rw [feed_of_ofOffset?_eq_none hr, Input.written?, if_neg hne, Option.getD_none]
    | some r =>
      obtain rfl := PortRegister.ofOffset?_eq_some hr
      rw [feed_write]
      cases r with
      | direction =>
        have hv := hstays v rfl
        show bit k (mix v p.dr p.input) = bit k p.dr
        rw [bit_mix, if_pos hv]
      | data =>
        show bit k (mix p.ddr v p.input) = bit k v
        rw [bit_mix, if_pos hp]
  | drive levels =>
    show bit k (mix p.ddr p.dr levels) = bit k p.dr
    rw [bit_mix, if_pos hp]

/-- An output that stays one has the level that was written to it last. -/
theorem bit_dr_foldl {p : IoPort} {inputs : List Input} (hp : bit k p.ddr = true)
    (hstays : ∀ v ∈ written .direction inputs, bit k v = true) :
    bit k (inputs.foldl feed p).dr = bit k ((written .data inputs).getLast?.getD p.dr) := by
  induction inputs generalizing p with
  | nil => rfl
  | cons i inputs ih =>
    rw [written_cons, List.forall_mem_append] at hstays
    have hi : ∀ v, i.written? .direction = some v → bit k v = true := fun v hv =>
      hstays.1 v (by simp [hv])
    have hdr := bit_dr_feed hp hi
    have hddr : bit k (p.feed i).ddr = true := by
      rw [ddr_feed]
      cases hv : i.written? .direction with
      | none => exact hp
      | some v => exact hi v hv
    rw [List.foldl_cons, ih hddr hstays.2, written_cons, getLast?_toList_append]
    exact bit_getD hdr _

theorem bit_ddr_foldl {p : IoPort} {inputs : List Input} (hp : bit k p.ddr = true)
    (hstays : ∀ v ∈ written .direction inputs, bit k v = true) :
    bit k (inputs.foldl feed p).ddr = true := by
  rw [ddr_foldl]
  cases hlast : (written .direction inputs).getLast? with
  | none => exact hp
  | some v => exact hstays v (List.mem_of_getLast? hlast)

theorem bit_dr_of_input {inputs : List Input} (limit : Nat)
    (h : bit k (after limit inputs).ddr = false) :
    bit k (after limit inputs).dr = bit k (level inputs) := by
  have hfollows := follows_after limit inputs
  have hdr := congrArg (bit k) hfollows.undriven
  rw [hfollows.input] at hdr
  simpa [h] using hdr

theorem bit_output {p : IoPort} (h : p.Settled) : bit k p.output = (bit k p.dr && bit k p.ddr) := by
  rw [h, bit_and]

/-- A write to the data register is not felt by an input. -/
theorem pin_set_of_input {before : List Input} (limit : Nat) {v : UInt8}
    (h : bit k (after limit before).ddr = false) :
    ((after limit before).feed (.write PortRegister.data.offset v)).pin k =
      (after limit before).pin k := by
  have hdr := bit_dr_of_input limit h
  have hinput := (follows_after limit before).input
  have houtput := bit_output (k := k) (settled_after limit before)
  rw [feed_write]
  simp [pin, set, settle, h, hdr, hinput, houtput]

/-- Nor is what an output is driven to. As long as it stays an output, it only differs in this. -/
theorem pin_drive_of_output {p : IoPort} {inputs : List Input} (hsettled : p.Settled)
    (hp : bit k p.ddr = true) (hstays : ∀ v ∈ written .direction inputs, bit k v = true)
    (levels : UInt8) : (inputs.foldl feed (p.feed (.drive levels))).pin k =
      { (inputs.foldl feed p).pin k with
        driven := bit k (inputs.foldl feed (p.feed (.drive levels))).input } := by
  have hddr := bit_ddr_foldl hp hstays
  have hddr' := bit_ddr_foldl (p := p.feed (.drive levels)) hp hstays
  have hdr : bit k (inputs.foldl feed (p.feed (.drive levels))).dr =
      bit k (inputs.foldl feed p).dr := by
    have hdrive : bit k (p.feed (.drive levels)).dr = bit k p.dr := bit_dr_feed hp nofun
    rw [bit_dr_foldl hp hstays, bit_dr_foldl (p := p.feed (.drive levels)) hp hstays]
    exact bit_getD hdrive _
  have houtput : bit k (inputs.foldl feed (p.feed (.drive levels))).output =
      bit k (inputs.foldl feed p).output := by
    rw [bit_output (hsettled.feedAll inputs), bit_output ((hsettled.feed _).feedAll inputs), hdr,
      hddr, hddr']
  simp only [pin, hddr, hddr', hdr, houtput]

theorem pin_after (limit : Nat) (inputs more : List Input) (k : Fin 8) :
    (after limit (inputs ++ more)).pin k =
      (more.map (·.felt k)).foldl Pin.feed ((after limit inputs).pin k) := by
  rw [after_append, pin_foldl]

/-! ## Main theorem -/

/-- How a pin behaves, whatever happens to its port. -/
structure Latches (limit : Nat) (k : Fin 8) : Prop where
  /-- A pin that is an output was made one at some time, and not made an input since. -/
  since : ∀ inputs, bit k (after limit inputs).ddr = true → ∃ before turn behind,
    inputs = before ++ .write PortRegister.direction.offset turn :: behind ∧
    OutputSince k before turn behind
  /-- An output has what was last written to it since then, or what was driven from outside then. -/
  output : ∀ before turn behind, OutputSince k before turn behind →
    let p := after limit (before ++ .write PortRegister.direction.offset turn :: behind)
    bit k p.ddr = true ∧ bit k p.dr = bit k ((written .data behind).getLast?.getD (level before))
  /-- An input has what was driven from outside last, even while it was an output. -/
  input : ∀ inputs, bit k (after limit inputs).ddr = false →
    bit k (after limit inputs).dr = bit k (level inputs)
  /-- What is written to an input leaves no trace. -/
  unwritten : ∀ before v behind, bit k (after limit before).ddr = false →
    (after limit (before ++ .write PortRegister.data.offset v :: behind)).pin k =
      (after limit (before ++ behind)).pin k
  /-- Nor does what an output is driven to, as long as it is one. -/
  undriven : ∀ before levels behind, bit k (after limit before).ddr = true →
    (∀ v ∈ written .direction behind, bit k v = true) →
    (after limit (before ++ .drive levels :: behind)).pin k =
      { (after limit (before ++ behind)).pin k with
        driven := bit k (level (before ++ .drive levels :: behind)) }
  /-- Other pins have no part in this. -/
  apart : ∀ inputs inputs' : List Input, inputs.map (·.felt k) = inputs'.map (·.felt k) →
    (after limit inputs).pin k = (after limit inputs').pin k

/-- Each pin of an I/O port is a latch. -/
theorem pins_latch (limit : Nat) (k : Fin 8) : Latches limit k where
  since inputs h := by
    rw [ddr_after] at h
    exact exists_outputSince h
  output before turn behind h := by
    rw [after_append, List.foldl_cons, feed_write]
    have hdr : bit k ((after limit before).set ⟨.direction, turn⟩).dr = bit k (level before) := by
      show bit k (mix turn (after limit before).dr (after limit before).input) = _
      rw [bit_mix, if_pos h.turns]
      exact bit_dr_of_input limit (by rw [ddr_after, h.was])
    refine ⟨bit_ddr_foldl h.turns h.stays, ?_⟩
    rw [bit_dr_foldl h.turns h.stays]
    exact bit_getD hdr _
  input inputs h := bit_dr_of_input limit h
  unwritten before v behind h := by
    rw [after_append, List.foldl_cons, after_append, pin_foldl, pin_set_of_input limit h, ← pin_foldl]
  undriven before levels behind h hstays := by
    rw [← (follows_after limit (before ++ .drive levels :: behind)).input, after_append,
      List.foldl_cons, after_append]
    exact pin_drive_of_output (settled_after limit before) h hstays levels
  apart inputs inputs' h := by
    have hnew := pin_after limit [] inputs k
    have hnew' := pin_after limit [] inputs' k
    rw [List.nil_append] at hnew hnew'
    rw [hnew, hnew', h]

/-- A pin is driven high, made an output, and driven low. It stays high until it is an input again. -/
theorem pins_latch_held :
    let before : List Input := [.write 1 0x00, .drive 0x01]
    let behind : List Input := [.drive 0x00, .write 0 0x03]
    OutputSince 0 before 0x0F behind ∧
      bit 0 (after 4 (before ++ .write 0 0x0F :: behind)).dr = true ∧
      bit 0 (after 4 (before ++ .write 0 0x0F :: behind ++ [.write 0 0x0E])).dr = false :=
  have hsince : OutputSince 0 [.write 1 0x00, .drive 0x01] 0x0F [.drive 0x00, .write 0 0x03] :=
    ⟨rfl, rfl, List.forall_mem_singleton.2 rfl⟩
  ⟨hsince, ((pins_latch 4 0).output _ _ _ hsince).2, (pins_latch 4 0).input _ rfl⟩

end BlinkBench.IoPort

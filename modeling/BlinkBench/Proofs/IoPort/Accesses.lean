import BlinkBench.Proofs.History
import BlinkBench.Proofs.IoPort
import Mathlib.Data.List.Induction
/-!
# I/O ports behind accesses

An I/O port is read and written at offsets, and driven from outside. Its output is kept beside its
registers, and its histories beside both, so that they agree is an invariant: `always_coherent` says so
for every list of accesses since a reset, those at offsets without a register among them.
-/
namespace BlinkBench

theorem PortRegister.ofOffset?_eq_none {offset : UInt64} :
    ofOffset? offset = none ↔ ∀ r : PortRegister, offset ≠ r.offset := by
  constructor
  · rintro h r rfl
    rw [ofOffset?_offset] at h
    cases h
  · intro h
    cases hr : ofOffset? offset with
    | none => rfl
    | some r => exact absurd (ofOffset?_eq_some hr) (h r)

namespace IoPort

/-! ## Accesses -/

/-- What is done with an I/O port. -/
inductive Access where
  /-- A read at an offset. -/
  | read (offset : UInt64)
  | input (input : Input)
deriving DecidableEq, Repr

/-- The offset of a read or of a write. -/
def Access.offset? : Access → Option UInt64
  | .read offset | .input (.write offset _) => some offset
  | .input (.drive _) => none

/-- The input that an access is, if it is one. -/
def Access.input? : Access → Option Input
  | .read _ => none
  | .input i => some i

/-- The port behind an access, and the answer: a value if the access is a read. -/
def access (p : IoPort) : Access → IoPort × Except Fault (Option UInt8)
  | .read offset => (p, (p.read offset).map some)
  | .input (.write offset value) =>
    (p.feed (.write offset value), (p.write offset value).map fun _ => none)
  | .input (.drive levels) => (p.feed (.drive levels), .ok none)

/-- A port behind all accesses since its reset. -/
def used (limit : Nat) (accesses : List Access) : IoPort :=
  accesses.foldl (fun p a => (p.access a).1) (new limit)

/-- The inputs among some accesses. -/
def inputsOf (accesses : List Access) : List Input :=
  accesses.filterMap Access.input?

/-- Reads leave no trace. -/
theorem used_eq (limit : Nat) (accesses : List Access) :
    used limit accesses = after limit (inputsOf accesses) := by
  unfold used after inputsOf
  generalize new limit = p
  induction accesses generalizing p with
  | nil => rfl
  | cons a accesses ih =>
    rw [List.foldl_cons, ih]
    rcases a with _ | (_ | _) <;> rfl

/-- The value that an input writes to a register, if it does. -/
def Input.written? (r : PortRegister) : Input → Option UInt8
  | .write offset value => if offset = r.offset then some value else none
  | .drive _ => none

/-- The levels that an input drives the pins to, if it does. -/
def Input.driven? : Input → Option UInt8
  | .write .. => none
  | .drive levels => some levels

/-- The values written to a register. -/
def written (r : PortRegister) (inputs : List Input) : List UInt8 :=
  inputs.filterMap (Input.written? r)

/-- The levels from outside behind some inputs. None is driven by a reset. -/
def level (inputs : List Input) : UInt8 :=
  (inputs.filterMap Input.driven?).getLast?.getD 0

theorem written_write (r s : PortRegister) (inputs : List Input) (v : UInt8) :
    written r (inputs ++ [.write s.offset v]) =
      if s = r then written r inputs ++ [v] else written r inputs := by
  cases r <;> cases s <;> simp [written, Input.written?, PortRegister.offset]

theorem written_drive (r : PortRegister) (inputs : List Input) (levels : UInt8) :
    written r (inputs ++ [.drive levels]) = written r inputs := by
  simp [written, Input.written?]

theorem level_write (inputs : List Input) (offset : UInt64) (v : UInt8) :
    level (inputs ++ [.write offset v]) = level inputs := by
  simp [level, Input.driven?]

theorem level_drive (inputs : List Input) (levels : UInt8) :
    level (inputs ++ [.drive levels]) = levels := by
  simp [level, Input.driven?]

/-! ## What an input keeps -/

/-- At the pins that are inputs a data register has what is driven from outside. -/
theorem mix_not (ddr levels driven : UInt8) : mix ddr levels driven &&& ~~~ddr = driven &&& ~~~ddr := by
  apply UInt8.eq_of_toBitVec_eq
  ext i
  simp [mix]
  grind

/-- A port is as its inputs have left it. -/
structure Follows (p : IoPort) (inputs : List Input) : Prop where
  settled : p.Settled
  input : p.input = level inputs
  undriven : p.dr &&& ~~~p.ddr = p.input &&& ~~~p.ddr
  data : p.dataWrites.Keeps (written .data inputs)
  outputs : ∃ levels, p.outputs.Keeps levels ∧
    levels.length = (written .direction inputs).length + (written .data inputs).length ∧
    ∀ v, levels.getLast? = some v → v = p.output

theorem follows_new (limit : Nat) : (new limit).Follows [] where
  settled := settled_new limit
  input := rfl
  undriven := rfl
  data := .new limit
  outputs := ⟨[], .new limit, rfl, by simp⟩

variable {p : IoPort} {inputs : List Input}

theorem outputs_set (p : IoPort) (w : PortWrite) :
    (p.set w).outputs = p.outputs.push (p.set w).output := by
  obtain ⟨_ | _, v⟩ := w <;> rfl

theorem Follows.set (h : p.Follows inputs) (r : PortRegister) (v : UInt8) :
    (p.set ⟨r, v⟩).Follows (inputs ++ [.write r.offset v]) := by
  obtain ⟨levels, hkeeps, hlength, -⟩ := h.outputs
  refine ⟨.set _, ?_, ?_, ?_, levels ++ [(p.set ⟨r, v⟩).output], ?_, ?_, ?_⟩
  · rw [level_write]
    cases r <;> exact h.input
  · cases r
    · exact mix_not v p.dr p.input
    · exact mix_not p.ddr v p.input
  · rw [written_write]
    cases r
    · exact h.data
    · exact h.data.push v
  · rw [outputs_set]
    exact hkeeps.push _
  · rw [List.length_append, hlength, written_write, written_write]
    cases r <;> simp <;> omega
  · intro u hu
    rw [List.getLast?_concat] at hu
    exact (Option.some.inj hu).symm

theorem Follows.drive (h : p.Follows inputs) (levels : UInt8) :
    (p.drive levels).Follows (inputs ++ [.drive levels]) where
  settled := h.settled.feed (.drive levels)
  input := (level_drive inputs levels).symm
  undriven := mix_not p.ddr p.dr levels
  data := by
    rw [written_drive]
    exact h.data
  outputs := by
    rw [written_drive, written_drive]
    exact h.outputs

/-- A write at an offset without a register is no write. -/
theorem feed_of_ofOffset?_eq_none {offset : UInt64} (h : PortRegister.ofOffset? offset = none)
    (v : UInt8) : p.feed (.write offset v) = p := by
  rw [feed, write, h]
  rfl

theorem Follows.feed (h : p.Follows inputs) (i : Input) : (p.feed i).Follows (inputs ++ [i]) := by
  cases i with
  | write offset v =>
    cases hr : PortRegister.ofOffset? offset with
    | none =>
      have hnone : ∀ r, written r (inputs ++ [.write offset v]) = written r inputs := by
        intro r
        have hne := PortRegister.ofOffset?_eq_none.1 hr r
        simp [written, Input.written?, hne]
      rw [feed_of_ofOffset?_eq_none hr]
      refine ⟨h.settled, ?_, h.undriven, ?_, ?_⟩
      · rw [level_write]
        exact h.input
      · rw [hnone]
        exact h.data
      · rw [hnone, hnone]
        exact h.outputs
    | some r =>
      rw [PortRegister.ofOffset?_eq_some hr, feed_write]
      exact h.set r v
  | drive levels => exact h.drive levels

theorem follows_after (limit : Nat) (inputs : List Input) : (after limit inputs).Follows inputs := by
  -- Inputs come one behind the other, so the induction takes the last one off.
  induction inputs using List.reverseRecOn with
  | nil => exact follows_new limit
  | append_singleton inputs i ih =>
    rw [after_append]
    exact ih.feed i

/-! ## Main theorem -/

/-- What is known of an I/O port and its histories behind some inputs. -/
structure Coherent (p : IoPort) (inputs : List Input) : Prop where
  output : p.output = p.dr &&& p.ddr
  /-- At its inputs the data register has the levels from outside. -/
  undriven : p.dr &&& ~~~p.ddr = level inputs &&& ~~~p.ddr
  dataTotal : p.dataWrites.total = UInt64.ofNat (written .data inputs).length
  outputTotal : p.outputs.total =
    UInt64.ofNat ((written .direction inputs).length + (written .data inputs).length)
  /-- The newest output is the one that the port has. -/
  newestOutput : ∀ v, p.outputs.recent.getLast? = some v → v = p.output
  someOutput : p.outputs.recent = [] ↔ written .direction inputs = [] ∧ written .data inputs = []
  /-- The newest value is the one that was written last, at all pins. -/
  newestData : p.dataWrites.recent.getLast? = (written .data inputs).getLast?

theorem Follows.coherent (h : p.Follows inputs) : p.Coherent inputs := by
  obtain ⟨levels, hkeeps, hlength, hlast⟩ := h.outputs
  refine ⟨h.settled, ?_, h.data.total, ?_, ?_, ?_, h.data.getLast?_recent⟩
  · rw [h.undriven, h.input]
  · rw [hkeeps.total, hlength]
  · intro v hv
    rw [hkeeps.getLast?_recent] at hv
    exact hlast v hv
  · have hnil : p.outputs.recent = [] ↔ levels = [] := by
      rw [← List.getLast?_eq_none_iff, hkeeps.getLast?_recent, List.getLast?_eq_none_iff]
    rw [hnil, ← List.length_eq_zero_iff, hlength, ← List.length_eq_zero_iff,
      ← List.length_eq_zero_iff]
    omega

/-- Whatever was done with an I/O port since its reset, its output, its registers and its histories
agree. What is driven from outside is felt by the data register alone, and an access at an offset without
a register is refused and changes nothing. -/
theorem always_coherent (limit : Nat) (accesses : List Access) :
    let p := used limit accesses
    p.Coherent (inputsOf accesses) ∧
      (∀ levels, (p.access (.input (.drive levels))).1 =
        { p with input := levels, dr := (p.drive levels).dr }) ∧
      ∀ a offset, a.offset? = some offset → offset ≠ 0 → offset ≠ 1 →
        p.access a = (p, .error (.memoryViolation offset)) := by
  refine ⟨?_, fun levels => rfl, ?_⟩
  · rw [used_eq]
    exact (follows_after limit (inputsOf accesses)).coherent
  · intro a offset ha h0 h1
    have hnone : PortRegister.ofOffset? offset = none := by
      refine PortRegister.ofOffset?_eq_none.2 fun r => ?_
      cases r
      · exact h0
      · exact h1
    rcases a with _ | (_ | _)
    · cases ha
      rw [access, read, hnone]
      rfl
    · cases ha
      rw [access, feed_of_ofOffset?_eq_none hnone, write, hnone]
      rfl
    · cases ha

/-- Four pins are driven from outside and four are outputs. There is no third register. -/
theorem always_coherent_mixed :
    let p := used 4 [.input (.write 0 0x0F), .input (.drive 0xA5), .read 1, .input (.write 1 0x3C)]
    p.dr = 0xAC ∧ p.output = 0x0C ∧ p.dataWrites.recent = [0x3C] ∧
      p.access (.read 2) = (p, .error (.memoryViolation 2)) :=
  ⟨rfl, rfl, rfl, (always_coherent 4 _).2.2 (.read 2) 2 rfl (by decide) (by decide)⟩

end IoPort

end BlinkBench

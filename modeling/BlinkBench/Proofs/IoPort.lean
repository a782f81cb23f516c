import BlinkBench.IoPort
/-!
# I/O ports behind inputs

Whatever is written to an I/O port or driven onto its pins, in any order, its output is the levels of
its data register at the pins that are outputs.
-/
namespace BlinkBench.IoPort

/-- What can happen to an I/O port from outside. -/
inductive Input where
  /-- A write at an offset. -/
  | write (offset : UInt64) (value : UInt8)
  /-- All pins are driven. -/
  | drive (levels : UInt8)
deriving DecidableEq, Repr

/-- A port behind an input. A write at an offset without a register changes nothing. -/
def feed (p : IoPort) : Input → IoPort
  | .write offset value => (p.write offset value).toOption.getD p
  | .drive levels => p.drive levels

/-- A port behind all inputs since its reset. -/
def after (limit : Nat) (inputs : List Input) : IoPort :=
  inputs.foldl feed (new limit)

theorem feed_write (p : IoPort) (r : PortRegister) (v : UInt8) :
    p.feed (.write r.offset v) = p.set ⟨r, v⟩ := by
  rw [feed, write, PortRegister.ofOffset?_offset]
  rfl

theorem after_append (limit : Nat) (inputs more : List Input) :
    after limit (inputs ++ more) = more.foldl feed (after limit inputs) :=
  List.foldl_append

/-- What is driven from outside does not show at the pins that are outputs. -/
theorem mix_and (ddr levels driven : UInt8) : mix ddr levels driven &&& ddr = levels &&& ddr := by
  apply UInt8.eq_of_toBitVec_eq
  ext i
  simp [mix]
  grind

/-- The output of a port is its data register where the pins are outputs. -/
def Settled (p : IoPort) : Prop :=
  p.output = p.dr &&& p.ddr

theorem Settled.set {p : IoPort} (w : PortWrite) : (p.set w).Settled := by
  cases hr : w.register <;> simp only [IoPort.set, hr]
  · rfl
  · exact (mix_and p.ddr w.value p.input).symm

theorem Settled.feed {p : IoPort} (h : p.Settled) (input : Input) : (p.feed input).Settled := by
  cases input with
  | write offset value =>
    rw [IoPort.feed, IoPort.write]
    split
    · exact .set _
    · exact h
  | drive levels => exact h.trans (mix_and p.ddr p.dr levels).symm

theorem Settled.feedAll {p : IoPort} (h : p.Settled) (inputs : List Input) :
    (inputs.foldl IoPort.feed p).Settled := by
  induction inputs generalizing p with
  | nil => exact h
  | cons input inputs ih => exact ih (h.feed input)

theorem settled_new (limit : Nat) : (new limit).Settled :=
  UInt8.zero_and.symm

theorem settled_after (limit : Nat) (inputs : List Input) : (after limit inputs).Settled :=
  (settled_new limit).feedAll inputs

end BlinkBench.IoPort

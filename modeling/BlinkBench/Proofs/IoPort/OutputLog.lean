import BlinkBench.Proofs.IoPort.Accesses
/-!
# What an I/O port tells of its output

An I/O port tells of a write that changes its output, while its history of outputs takes up every write
and forgets the old ones. So the log holds all that the history has ever held, with repetitions left out:
`log_traces_output` says so for every list of accesses since a reset.
-/
namespace BlinkBench

/-- Messages of changes from one output to another: each begins where the one before it ends. -/
inductive Message.Leads : UInt8 → List Message → UInt8 → Prop where
  | nil (a : UInt8) : Leads a [] a
  | cons {a b c : UInt8} {messages : List Message} (hne : a ≠ b) (rest : Leads b messages c) :
    Leads a (.outputChanged a b :: messages) c

theorem Message.Leads.append {a b c : UInt8} {messages more : List Message}
    (h : Leads a messages b) (hmore : Leads b more c) : Leads a (messages ++ more) c := by
  induction h with
  | nil => exact hmore
  | cons hne _ ih => exact .cons hne (ih hmore)

namespace IoPort

/-! ## Changes along levels -/

/-- The changes from each of some levels to the next one. -/
def changesAlong (levels : List UInt8) : List Message :=
  (levels.zip levels.tail).filterMap fun (a, b) =>
    if a = b then none else some (.outputChanged a b)

@[simp] theorem changesAlong_singleton (a : UInt8) : changesAlong [a] = [] := rfl

theorem changesAlong_cons_cons (a b : UInt8) (levels : List UInt8) :
    changesAlong (a :: b :: levels) = changesAlong [a, b] ++ changesAlong (b :: levels) := by
  by_cases h : a = b <;> simp [changesAlong, h]

theorem changesAlong_append (a : UInt8) (levels more : List UInt8) :
    changesAlong (a :: (levels ++ more)) =
      changesAlong (a :: levels) ++ changesAlong (levels.getLast?.getD a :: more) := by
  induction levels generalizing a with
  | nil => simp
  | cons b levels ih =>
    rw [List.cons_append, changesAlong_cons_cons, ih, changesAlong_cons_cons a b levels,
      List.append_assoc, List.getLast?_cons, Option.getD_some]

/-! ## What an access tells -/

/-- What is told about an access. -/
def accessMessages (p : IoPort) : Access → List Message
  | .input (.write offset value) => p.writeMessages offset value
  | .read _ | .input (.drive _) => []

/-- The level that an access gives the output pins, if it does. -/
def accessLevel? (p : IoPort) : Access → Option UInt8
  | .input (.write offset value) => (p.write offset value).toOption.map (·.output)
  | .read _ | .input (.drive _) => none

/-- All that is told about some accesses. -/
def log (p : IoPort) : List Access → List Message
  | [] => []
  | a :: accesses => p.accessMessages a ++ log (p.access a).1 accesses

/-- All levels that some accesses give the output pins. -/
def outputLevels (p : IoPort) : List Access → List UInt8
  | [] => []
  | a :: accesses => (p.accessLevel? a).toList ++ outputLevels (p.access a).1 accesses

/-- From one state of a port to another, some levels were given to the output pins, and the messages tell
of the changes. -/
structure Traces (p : IoPort) (messages : List Message) (levels : List UInt8) (q : IoPort) : Prop where
  outputs : q.outputs = levels.foldl History.push p.outputs
  output : q.output = levels.getLast?.getD p.output
  leads : Message.Leads p.output messages q.output
  changes : messages = changesAlong (p.output :: levels)

variable {p q r : IoPort} {messages more : List Message} {levels levels' : List UInt8}

theorem Traces.append (h : p.Traces messages levels q) (hmore : q.Traces more levels' r) :
    p.Traces (messages ++ more) (levels ++ levels') r where
  outputs := by rw [hmore.outputs, h.outputs, List.foldl_append]
  output := by
    rw [hmore.output, h.output, List.getLast?_append]
    cases levels'.getLast? <;> rfl
  leads := h.leads.append hmore.leads
  changes := by rw [h.changes, hmore.changes, changesAlong_append, h.output]

/-- What leaves the output and its history alone has nothing to tell. -/
theorem traces_of_same (houtput : q.output = p.output) (houtputs : q.outputs = p.outputs) :
    p.Traces [] [] q where
  outputs := houtputs
  output := houtput
  leads := houtput ▸ .nil _
  changes := rfl

theorem traces_set (p : IoPort) (w : PortWrite) :
    p.Traces (p.setMessages w) [(p.set w).output] (p.set w) where
  outputs := outputs_set p w
  output := rfl
  leads := by
    unfold setMessages changes
    split
    · rename_i hsame
      rw [← hsame]
      exact .nil _
    · rename_i hne
      exact .cons hne (.nil _)
  changes := by
    unfold setMessages changes
    split <;> simp_all [changesAlong]

/-- Whether an access is a write to a register. -/
def Access.isWrite (a : Access) : Prop :=
  ∃ (r : PortRegister) (v : UInt8), a = .input (.write r.offset v)

theorem access_of_not_isWrite {a : Access} (h : ¬a.isWrite) (p : IoPort) :
    p.accessMessages a = [] ∧ p.accessLevel? a = none ∧
      (p.access a).1.output = p.output ∧ (p.access a).1.outputs = p.outputs := by
  rcases a with offset | offset | levels
  · exact ⟨rfl, rfl, rfl, rfl⟩
  · rename_i v
    have hnone : PortRegister.ofOffset? offset = none := by
      apply PortRegister.ofOffset?_eq_none.2
      rintro r rfl
      exact h ⟨r, v, rfl⟩
    have hwrite : p.write offset v = .error (.memoryViolation offset) := by
      rw [write, hnone]
    simp [accessMessages, writeMessages, accessLevel?, access, feed, hwrite, Except.toOption]
  · exact ⟨rfl, rfl, rfl, rfl⟩

theorem traces_access (p : IoPort) (a : Access) :
    p.Traces (p.accessMessages a) (p.accessLevel? a).toList (p.access a).1 := by
  by_cases ha : a.isWrite
  · obtain ⟨r, v, rfl⟩ := ha
    have hwrite : p.write r.offset v = .ok (p.set ⟨r, v⟩) := by
      rw [write, PortRegister.ofOffset?_offset]
    simp only [accessMessages, writeMessages, accessLevel?, access, feed, hwrite]
    exact p.traces_set ⟨r, v⟩
  · obtain ⟨hmessages, hlevel, houtput, houtputs⟩ := access_of_not_isWrite ha p
    rw [hmessages, hlevel]
    exact traces_of_same houtput houtputs

theorem traces_accesses (p : IoPort) (accesses : List Access) :
    p.Traces (p.log accesses) (p.outputLevels accesses)
      (accesses.foldl (fun p a => (p.access a).1) p) := by
  induction accesses generalizing p with
  | nil => exact traces_of_same rfl rfl
  | cons a accesses ih => exact (p.traces_access a).append (ih _)

/-! ## Main theorem -/

/-- Whatever was done with an I/O port since its reset, the messages lead from zero to the output it has.
They are the changes along all levels that its history of outputs was ever given, and nothing but a write
to a register tells of one. -/
theorem log_traces_output (limit : Nat) (accesses : List Access) :
    let p := used limit accesses
    let messages := log (new limit) accesses
    let levels := outputLevels (new limit) accesses
    Message.Leads 0 messages p.output ∧
      p.outputs = .behind limit levels ∧
      messages = changesAlong (0 :: levels) ∧
      ∀ a : Access, ¬a.isWrite → p.accessMessages a = [] ∧ p.accessLevel? a = none := by
  have h := traces_accesses (new limit) accesses
  refine ⟨h.leads, h.outputs, h.changes, ?_⟩
  intro a ha
  obtain ⟨hmessages, hlevel, -⟩ := access_of_not_isWrite ha (used limit accesses)
  exact ⟨hmessages, hlevel⟩

/-- Of two writes that differ at inputs only the second one tells nothing, nor does one at an offset without
a register, or what is driven from outside. -/
theorem log_traces_output_masked :
    let accesses : List Access := [.input (.write 0 0x0F), .input (.drive 0xA5), .input (.write 1 0x3C),
      .input (.write 1 0xFC), .input (.write 2 0xFF), .input (.write 0 0xFF), .input (.write 1 0)]
    let p := used 2 accesses
    log (new 2) accesses =
      [.outputChanged 0 0x0C, .outputChanged 0x0C 0xAC, .outputChanged 0xAC 0] ∧
    Message.Leads 0 (log (new 2) accesses) p.output ∧ p.outputs.recent = [0xAC, 0] ∧
    p.accessMessages (.input (.drive 0xFF)) = [] := by
  refine ⟨by decide, (log_traces_output 2 _).1, by decide, ?_⟩
  refine ((log_traces_output 2 _).2.2.2 (.input (.drive 0xFF)) ?_).1
  rintro ⟨r, v, h⟩
  cases h

end IoPort

end BlinkBench

import BlinkBench.Proofs.Blinker.Calls
import BlinkBench.Proofs.History
import BlinkBench.Proofs.IoPort
/-!
# I/O ports whose pins are all outputs

Once all pins of an I/O port are outputs, nothing from outside shows: the data register and the output
are what was written last, whatever the port was like before.
-/
namespace BlinkBench

@[simp] theorem History.total_push (h : History) (v : UInt8) : (h.push v).total = h.total + 1 := by
  unfold push
  split <;> rfl

namespace IoPort

theorem and_outputDirection (levels : UInt8) : levels &&& outputDirection = levels :=
  UInt8.and_neg_one

/-- Where all pins are outputs, none is driven from outside. -/
theorem mix_outputDirection (levels driven : UInt8) :
    mix outputDirection levels driven = levels := by
  have hnone : ~~~outputDirection = 0 := rfl
  rw [mix, and_outputDirection, hnone, UInt8.zero_and, UInt8.or_zero]

/-! ## Writes one after another -/

variable {io : IoPort} {writes : List PortWrite}

/-- Each write counts as an output, and each one to the data register as a write. -/
theorem totals_foldl_set (io : IoPort) (writes : List PortWrite) :
    (writes.foldl set io).dataWrites.total =
      io.dataWrites.total + UInt64.ofNat (valuesOf .data writes).length ∧
    (writes.foldl set io).outputs.total = io.outputs.total + UInt64.ofNat writes.length := by
  induction writes generalizing io with
  | nil => simp
  | cons w writes ih =>
    obtain ⟨hdata, houtputs⟩ := ih (io.set w)
    rw [List.foldl_cons, hdata, houtputs]
    have hadd : ∀ (t : UInt64) (n : Nat), t + 1 + UInt64.ofNat n = t + UInt64.ofNat (n + 1) := by
      intro t n
      rw [Nat.add_comm, UInt64.ofNat_add, UInt64.add_assoc]
      rfl
    obtain ⟨_ | _, v⟩ := w <;> simp [set, settle, hadd]

theorem settled_foldl_set (h : io.Settled) (writes : List PortWrite) :
    (writes.foldl set io).Settled := by
  induction writes generalizing io with
  | nil => exact h
  | cons w writes ih => exact ih (.set w)

/-- A port all of whose pins are outputs stays so, and its data register has what was written to it
last. -/
theorem foldl_set_of_outputs (io : IoPort) (hio : io.ddr = outputDirection)
    (hall : ∀ w ∈ writes, w.register = .direction → w.value = outputDirection) :
    (writes.foldl set io).ddr = outputDirection ∧
      (writes.foldl set io).dr = (valuesOf .data writes).getLast?.getD io.dr := by
  induction writes generalizing io with
  | nil => exact ⟨hio, rfl⟩
  | cons w writes ih =>
    have hrest := fun w' hw' => hall w' (List.mem_cons_of_mem w hw')
    obtain ⟨_ | _, v⟩ := w
    · obtain rfl : v = outputDirection := hall _ List.mem_cons_self rfl
      have hdr : (io.set ⟨.direction, outputDirection⟩).dr = io.dr := mix_outputDirection io.dr io.input
      rw [List.foldl_cons, valuesOf_cons, if_neg (by decide), ← hdr]
      exact ih _ rfl hrest
    · have hdr : (io.set ⟨.data, v⟩).dr = v := by
        show mix io.ddr v io.input = v
        rw [hio, mix_outputDirection]
      rw [List.foldl_cons, valuesOf_cons, if_pos rfl, List.getLast?_cons, Option.getD_some]
      have := ih (io.set ⟨.data, v⟩) hio hrest
      rwa [hdr] at this

/-- Whatever a port was like, once all its pins are made outputs they are, and its data register has
what was written to it last. -/
theorem foldl_set_of_head (io : IoPort)
    (hall : ∀ w ∈ writes, w.register = .direction → w.value = outputDirection)
    (hhead : ∀ w, writes.head? = some w → w = ⟨.direction, outputDirection⟩) :
    (writes ≠ [] → (writes.foldl set io).ddr = outputDirection) ∧
      ∀ v, (valuesOf .data writes).getLast? = some v → (writes.foldl set io).dr = v := by
  cases writes with
  | nil => exact ⟨fun h => absurd rfl h, by simp⟩
  | cons w writes =>
    obtain rfl := hhead w rfl
    obtain ⟨hddr, hdr⟩ := foldl_set_of_outputs (io.set ⟨.direction, outputDirection⟩) rfl
      fun w' hw' => hall w' (List.mem_cons_of_mem _ hw')
    refine ⟨fun _ => hddr, fun v hv => ?_⟩
    rw [valuesOf_cons, if_neg (by decide)] at hv
    rw [List.foldl_cons, hdr, hv]
    rfl

end IoPort

end BlinkBench

import BlinkBench.Proofs.Bus.Refusals
/-!
# Devices of other makes

A device of another make is known by what it answers behind the writes that it has taken. Every device
that goes from state to state is known in this way. One that answers reads and rejects all writes stays
at its addresses as it is, whatever is written to a bus.
-/
namespace BlinkBench

/-! ## Devices with states -/

namespace Foreign

variable {σ : Type} {readIn : σ → PortRegister → Except Fault UInt8}
  {writeIn : σ → PortWrite → Except Fault σ} {start s s' : σ} {f : Foreign} {w : PortWrite}
  {fault : Fault}

/-- A device that goes from state to state has come to a state. -/
structure IsIn (readIn : σ → PortRegister → Except Fault UInt8)
    (writeIn : σ → PortWrite → Except Fault σ) (start s : σ) (f : Foreign) : Prop where
  device : f = { ofStates readIn writeIn start with taken := f.taken }
  state : stateBehind writeIn start f.taken = s

theorem isIn_start : IsIn readIn writeIn start start (ofStates readIn writeIn start) :=
  ⟨rfl, rfl⟩

theorem IsIn.read (h : IsIn readIn writeIn start s f) (r : PortRegister) :
    f.read r = readIn s r := by
  rw [Foreign.read, h.device, ← h.state]
  rfl

theorem IsIn.refusal? (h : IsIn readIn writeIn start s f) : f.refusal? f.taken w =
    match writeIn s w with
    | .ok _ => none
    | .error fault => some fault := by
  rw [h.device, ← h.state]
  rfl

/-- A write that the state takes leads on to the next state. -/
theorem IsIn.write (h : IsIn readIn writeIn start s f) (hw : writeIn s w = .ok s') :
    ∃ f', f.write w = .ok f' ∧ IsIn readIn writeIn start s' f' := by
  refine ⟨{ f with taken := w :: f.taken }, ?_, ?_, ?_⟩
  · rw [Foreign.write, h.refusal?, hw]
  · rw [h.device]
  · show (writeIn (stateBehind writeIn start f.taken) w).toOption.getD _ = s'
    rw [h.state, hw]
    rfl

/-- A write that the state refuses is refused for the same reason. -/
theorem IsIn.write_error (h : IsIn readIn writeIn start s f) (hw : writeIn s w = .error fault) :
    f.write w = .error fault := by
  rw [Foreign.write, h.refusal?, hw]

end Foreign

/-! ## Devices that reject all writes -/

/-- A device that answers reads and rejects all writes. It is as it was behind them. -/
structure Device.Rejects (d : Device) : Prop where
  answers : ∀ r, ∃ v, d.read r = .ok v
  rejects : ∀ w, ∃ fault, d.write w = .error fault

theorem Foreign.rejects_latch : (Device.foreign (.latch true)).Rejects where
  answers _ := ⟨_, rfl⟩
  rejects _ := ⟨_, rfl⟩

/-- Such a device is no I/O port, so it tells nothing of its own. -/
theorem Device.Rejects.writeMessages {d : Device} (h : d.Rejects) (w : PortWrite) :
    d.writeMessages w = [] := by
  cases d with
  | io port =>
    obtain ⟨fault, hfault⟩ := h.rejects w
    cases hfault
  | foreign f => rfl

namespace Bus

variable {bus bus' : Bus} {q : PortEntry} {r : PortRegister} {a b : UInt64} {v : UInt8}

theorem read_of_rejects (h : bus.portAt? a = some (q, r)) (hq : q.device.Rejects) :
    ∃ v, bus.read a = .ok v := by
  rw [read, h]
  exact hq.answers r

theorem write_of_rejects (h : bus.portAt? a = some (q, r)) (hq : q.device.Rejects) (v : UInt8) :
    ∃ fault, q.device.write ⟨r, v⟩ = .error fault ∧ bus.write a v = .error fault := by
  obtain ⟨fault, hfault⟩ := hq.rejects ⟨r, v⟩
  obtain ⟨before, behind, -, hwrite⟩ := write_of_portAt? h v
  rw [hfault] at hwrite
  exact ⟨fault, hfault, hwrite⟩

/-- Whatever write is taken, a device that rejects all of them has not taken it. -/
theorem portAt?_of_rejects (h : bus.portAt? a = some (q, r)) (hq : q.device.Rejects)
    (hwrite : bus.write b v = .ok bus') : bus'.portAt? a = some (q, r) := by
  obtain ⟨before, p, s, behind, device, hports, hdevice, rfl⟩ | ⟨registers, -, rfl⟩ :=
    write_cases hwrite
  · have hsame : ({ p with device } : PortEntry).register? a = p.register? a := rfl
    simp only [portAt?, hports, List.findSome?_append, List.findSome?_cons, hsame] at h ⊢
    cases hbefore : before.findSome? fun q => (q.register? a).map (q, ·) with
    | some found =>
      rw [hbefore] at h
      exact h
    | none =>
      rw [hbefore] at h
      cases hregister : p.register? a with
      | none =>
        rw [hregister] at h
        exact h
      | some t =>
        -- The port that answers is the one that took the write.
        rw [hregister] at h
        obtain ⟨rfl, -⟩ := Prod.mk.inj (Option.some.inj h)
        obtain ⟨fault, hfault⟩ := hq.rejects ⟨s, v⟩
        rw [hfault] at hdevice
        cases hdevice
  · exact h

end Bus

end BlinkBench

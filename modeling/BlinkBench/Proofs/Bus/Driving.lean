import BlinkBench.Port
import BlinkBench.Proofs.Bus.Memory
import BlinkBench.Proofs.History
import BlinkBench.Proofs.IoPort.Outputs
import Mathlib.Data.List.Nodup
import Mathlib.Data.List.Pairwise
import Mathlib.Logic.Function.Basic
/-!
# Driving a port of a bus

Where no two ports of a board share an identifier or an address, what is written to one of them
reaches this one and no other. An I/O port all of whose pins are outputs shows what was written to it
last.
-/
namespace BlinkBench

/-! ## Pins that are outputs -/

namespace IoPort

/-- An I/O port with a limit for its history all of whose pins are outputs, behind some values that
were written to its data register. -/
structure Shows (p : IoPort) (limit : Nat) (values : List UInt8) : Prop where
  ddr : p.ddr = outputDirection
  dr : p.dr = values.getLast?.getD 0
  output : p.output = values.getLast?.getD 0
  keeps : p.dataWrites.Keeps values
  limit : p.dataWrites.limit = max limit 1

variable {p : IoPort} {limit : Nat} {values : List UInt8}

theorem Shows.set (h : p.Shows limit values) (v : UInt8) :
    (p.set ⟨.data, v⟩).Shows limit (values ++ [v]) where
  ddr := h.ddr
  dr := by
    rw [List.getLast?_concat]
    show mix p.ddr v p.input = v
    rw [h.ddr, mix_outputDirection]
  output := by
    rw [List.getLast?_concat]
    show v &&& p.ddr = v
    rw [h.ddr, and_outputDirection]
  keeps := h.keeps.push v
  limit := (History.limit_push _ v).trans h.limit

end IoPort

/-! ## Ports of a board -/

/-- A port of a board with an I/O port behind it. -/
def PortSpec.entry (p : PortSpec) (io : IoPort) : PortEntry :=
  ⟨p.id, p.ddrAddress, p.drAddress, .io io⟩

/-- The address of a register. -/
def PortSpec.address (p : PortSpec) : PortRegister → UInt64
  | .direction => p.ddrAddress
  | .data => p.drAddress

theorem PortSpec.mem_address (p : PortSpec) (r : PortRegister) :
    p.address r ∈ [p.ddrAddress, p.drAddress] := by
  cases r <;> simp [address]

/-- No two ports share an identifier or an address, nor do the two registers of any of them. -/
structure Apart (ports : List PortSpec) : Prop where
  ids : (ports.map (·.id)).Nodup
  addresses : (ports.flatMap fun p => [p.ddrAddress, p.drAddress]).Nodup

namespace Apart

variable {p q : PortSpec} {ports : List PortSpec} {io : String → IoPort}

/-- No address belongs to two ports. -/
theorem eq_of_mem {a : UInt64} (h : Apart ports) (hp : p ∈ ports) (hq : q ∈ ports)
    (ha : a ∈ [p.ddrAddress, p.drAddress]) (ha' : a ∈ [q.ddrAddress, q.drAddress]) : p = q := by
  by_contra hne
  have hdisjoint := (List.nodup_flatMap.1 h.addresses).2
  have : Std.Symm (Function.onFun List.Disjoint
      fun p : PortSpec => [p.ddrAddress, p.drAddress]) := ⟨fun _ _ h _ hy hx => h hx hy⟩
  exact hdisjoint.forall hp hq hne ha ha'

/-- A write at an address of a port reaches this port, and no other one changes. -/
theorem writePorts (h : Apart ports) (hp : p ∈ ports) (r : PortRegister) (v : UInt8) :
    Bus.writePorts (p.address r) v (ports.map fun q => q.entry (io q.id)) =
      some (.ok (ports.map fun q =>
        q.entry (Function.update io p.id ((io p.id).set ⟨r, v⟩) q.id))) := by
  have hnodup : ((ports.map fun q => q.entry (io q.id)).flatMap PortEntry.addresses).Nodup := by
    rw [List.flatMap_map]
    exact h.addresses
  have hio : ∀ e ∈ ports.map (fun q => q.entry (io q.id)), ∃ port, e.device = .io port := by
    intro e he
    obtain ⟨q, -, rfl⟩ := List.mem_map.1 he
    exact ⟨_, rfl⟩
  have hentry : p.address r ∈ (p.entry (io p.id)).addresses := p.mem_address r
  have hmem := List.mem_map_of_mem (f := fun q : PortSpec => q.entry (io q.id)) hp
  rw [Bus.writePorts_of_mem hnodup hio (List.mem_flatMap.2 ⟨_, hmem, hentry⟩), List.map_map]
  refine congrArg (some ∘ Except.ok) (List.map_congr_left fun q hq => ?_)
  by_cases hqp : q = p
  · subst hqp
    rw [Function.update_self]
    have hregister : (q.entry (io q.id)).register? (q.address r) = some r := by
      have := PortEntry.register?_address ((List.nodup_flatMap.1 hnodup).1 _ hmem) r
      cases r <;> exact this
    exact PortEntry.store_of_register? hregister rfl v
  · rw [Function.update_of_ne fun hid => hqp (List.inj_on_of_nodup_map h.ids hq hp hid)]
    exact PortEntry.store_of_not_mem (fun ha => hqp (h.eq_of_mem hq hp ha hentry)) v

end Apart

/-! ## Writing to a port -/

/-- A port that is attached to a port of a board, on a bus with an I/O port for each identifier. -/
structure BusPort.Drives (port : BusPort) (b : Board) (p : PortSpec) (io : String → IoPort) :
    Prop where
  ports : port.bus.ports = b.ports.map fun q => q.entry (io q.id)
  address : ∀ r, port.address r = p.address r

namespace BusPort.Drives

variable {port : BusPort} {b : Board} {p : PortSpec} {io : String → IoPort}

/-- A write goes to the I/O port of the port that is driven. -/
theorem write (h : port.Drives b p io) (hapart : Apart b.ports) (hp : p ∈ b.ports)
    (w : PortWrite) :
    (port.write w).Drives b p (Function.update io p.id ((io p.id).set w)) := by
  have hbus : port.bus.write (port.address w.register) w.value = .ok { port.bus with
      ports := b.ports.map fun q => q.entry (Function.update io p.id ((io p.id).set w) q.id) } := by
    rw [Bus.write, h.ports, h.address, hapart.writePorts hp]
  unfold BusPort.write
  rw [hbus]
  exact ⟨rfl, h.address⟩

theorem writeAll (h : port.Drives b p io) (hapart : Apart b.ports) (hp : p ∈ b.ports)
    (writes : List PortWrite) : (writes.foldl BusPort.write port).Drives b p
      (Function.update io p.id (writes.foldl IoPort.set (io p.id))) := by
  induction writes generalizing port io with
  | nil => simpa using h
  | cons w writes ih => simpa using ih (h.write hapart hp w)

end BusPort.Drives

end BlinkBench

import BlinkBench.Proofs.AscendingMap
import BlinkBench.Proofs.Bus.Driving
import BlinkBench.Snapshot.Basic
/-!
# What a snapshot shows

On a bus for a board whose ports have identifiers of their own, a snapshot shows every port of the
board under its identifier, and no other port.
-/
namespace BlinkBench

theorem lookup_reverse_of_nodup {α : Type} {l : List (String × α)} (h : (l.map (·.1)).Nodup)
    (key : String) : l.reverse.lookup key = l.lookup key := by
  induction l with
  | nil => rfl
  | cons e l ih =>
    obtain ⟨hnew, hrest⟩ := List.nodup_cons.1 h
    rw [List.reverse_cons, List.lookup_append, ih hrest, List.lookup_cons, List.lookup_cons]
    cases hkey : key == e.1 with
    | false => simp
    | true =>
      -- The key comes up once, so it makes no difference from which end it is looked for.
      have hnone : l.lookup key = none := by
        refine List.lookup_eq_none_iff.2 fun p hp => ?_
        rw [eq_of_beq hkey]
        exact bne_iff_ne.2 fun heq => hnew (List.mem_map.2 ⟨p, hp, heq.symm⟩)
      rw [hnone]
      rfl

section Keys

variable {α β κ : Type} [BEq κ] [LawfulBEq κ]

/-- Where keys differ, each leads to what it belongs to. -/
theorem find?_key_of_mem {l : List α} {x : α} (key : α → κ) (hkeys : (l.map key).Nodup)
    (hx : x ∈ l) : l.find? (key · == key x) = some x := by
  obtain ⟨y, hy⟩ : ∃ y, l.find? (key · == key x) = some y := by
    rw [← Option.isSome_iff_exists, List.find?_isSome]
    exact ⟨x, hx, beq_self_eq_true _⟩
  have hkey : key y = key x := by simpa using List.find?_some hy
  rw [hy, List.inj_on_of_nodup_map hkeys (List.mem_of_find?_eq_some hy) hx hkey]

theorem lookup_map_key (key : α → κ) (value : α → β) (l : List α) (k : κ) :
    (l.map fun x => (key x, value x)).lookup k = (l.find? (key · == k)).map value := by
  induction l with
  | nil => rfl
  | cons x l ih =>
    rw [List.map_cons, List.lookup_cons, List.find?_cons, Bool.beq_comm, ih]
    cases key x == k <;> rfl

end Keys

/-- A run of no toggles. -/
def Report.idle : Report where
  toggles := 0
  lastState := none
  stopReason := .maxToggles
  delayIterations := 0

/-- A port of a board in a snapshot, by the I/O port behind it. -/
def PortSpec.shown (p : PortSpec) (io : IoPort) : PortSnapshot where
  ddrAddress := p.ddrAddress
  drAddress := p.drAddress
  ddr := io.ddr
  dr := io.dr
  output := io.output
  writes := io.dataWrites.recent
  writeCount := io.dataWrites.total

section Ports

variable {ports : List PortSpec} {io : String → IoPort} {bus : Bus}

theorem find?_id_of_mem {p : PortSpec} (hids : (ports.map (·.id)).Nodup) (hp : p ∈ ports) :
    ports.find? (·.id == p.id) = some p :=
  find?_key_of_mem PortSpec.id hids hp

theorem ioPort?_of_mem (hids : (ports.map (·.id)).Nodup)
    (hbus : bus.ports = ports.map fun p => p.entry (io p.id)) {p : PortSpec} (hp : p ∈ ports) :
    bus.ioPort? p.id = some (io p.id) := by
  have hfind : bus.ports.find? (·.name == p.id) = some (p.entry (io p.id)) := by
    rw [hbus, List.find?_map]
    show ((ports.find? (·.id == p.id)).map _) = _
    rw [find?_id_of_mem hids hp]
    rfl
  rw [Bus.ioPort?, Bus.portEntry?, hfind]
  rfl

theorem capturePort?_entry (hids : (ports.map (·.id)).Nodup)
    (hbus : bus.ports = ports.map fun p => p.entry (io p.id)) {p : PortSpec} (hp : p ∈ ports) :
    Snapshot.capturePort? bus (p.entry (io p.id)) = some (p.id, p.shown (io p.id)) := by
  show (bus.ioPort? p.id).map _ = _
  rw [ioPort?_of_mem hids hbus hp]
  rfl

/-- A snapshot shows what a board declares, and under the same identifiers. -/
theorem find?_capture (hids : (ports.map (·.id)).Nodup)
    (hbus : bus.ports = ports.map fun p => p.entry (io p.id)) (report : Report) (id : String) :
    (Snapshot.capture report bus).ports.find? id =
      (ports.find? (·.id == id)).map fun p => p.shown (io p.id) := by
  have hall : bus.ports.filterMap (Snapshot.capturePort? bus) =
      ports.map fun p => (p.id, p.shown (io p.id)) := by
    rw [hbus, List.filterMap_map, ← List.filterMap_eq_map]
    exact List.filterMap_congr fun p hp => capturePort?_entry hids hbus hp
  show (AscendingMap.ofList _).find? id = _
  rw [hall, AscendingMap.find?_ofList, lookup_reverse_of_nodup]
  · exact lookup_map_key PortSpec.id _ ports id
  · rw [List.map_map]
    exact hids

end Ports

end BlinkBench

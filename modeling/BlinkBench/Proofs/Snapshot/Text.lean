import BlinkBench.Proofs.AscendingMap
import BlinkBench.Proofs.Json.Records
import BlinkBench.Proofs.Json.Text
import BlinkBench.Snapshot.Json
/-!
# Snapshots that are read back

A snapshot can be read from its text, whatever is in it. So no two snapshots have the same text:
`read_back_snapshot`.
-/
namespace BlinkBench

open Json

/-! ## Parts of a snapshot -/

theorem inverts_lastState :
    Inverts (ofOption fun s : PinState => .str s.name) (optional? (named? PinState.ofName?)) :=
  (inverts_name fun s => by cases s <;> rfl).optional fun _ h => by cases h

theorem inverts_stopReason :
    Inverts (fun r : StopReason => .str r.name) (named? StopReason.ofName?) :=
  inverts_name fun r => by cases r <;> rfl

theorem Report.inverts : Inverts Report.toJson Report.ofJson? where
  read r := by
    rw [toJson, ofJson?, fields?_obj .ignored (by rfl) (by decide)]
    simp [field?, fieldOr?, List.lookup_cons, inverts_uint64.read, inverts_lastState.read,
      inverts_stopReason.read r.stopReason]
  plain r := .obj (by simp [inverts_uint64.plain, inverts_lastState.plain, Plain.str])

theorem PortSnapshot.inverts : Inverts PortSnapshot.toJson PortSnapshot.ofJson? where
  read p := by
    rw [toJson, ofJson?, fields?_obj .ignored (by rfl) (by decide)]
    simp [field?, List.lookup_cons, inverts_uint64.read, inverts_uint8.read, inverts_uint8.list.read]
  plain p := .obj (by simp [inverts_uint64.plain, inverts_uint8.plain, inverts_uint8.list.plain])

theorem RegisterSnapshot.inverts : Inverts RegisterSnapshot.toJson RegisterSnapshot.ofJson? where
  read r := by
    rw [toJson, ofJson?, fields?_obj .ignored (by rfl) (by decide)]
    simp [field?, List.lookup_cons, inverts_uint64.read, inverts_uint8.read]
  plain r := .obj (by simp [inverts_uint64.plain, inverts_uint8.plain])

/-- Names may be any texts, since each is a key of its own. -/
theorem inverts_names {α : Type} {write : α → Json} {read? : Decoder α} (h : Inverts write read?) :
    Inverts (ofNames write) (names? read?) where
  read m := by
    have hentry : ∀ e : String × α, (do return (e.1, ← read? (write e.2))) = some e := by
      intro e
      rw [h.read]
      rfl
    rw [ofNames, names?, mapM_map_eq_some hentry, Option.bind_eq_bind, Option.bind_some,
      AscendingMap.ofList_entries]
    rfl
  plain m := .obj fun e he => by
    obtain ⟨e, -, rfl⟩ := List.mem_map.1 he
    exact h.plain _

/-! ## Snapshots -/

theorem Snapshot.inverts : Inverts Snapshot.toJson Snapshot.ofJson? where
  read s := by
    rw [toJson, ofJson?, fields?_obj .ignored (by rfl) (by decide)]
    simp [field?, List.lookup_cons, Report.inverts.read, (inverts_names PortSnapshot.inverts).read,
      (inverts_names RegisterSnapshot.inverts).read]
  plain s := .obj (by
    simp [Report.inverts.plain, (inverts_names PortSnapshot.inverts).plain,
      (inverts_names RegisterSnapshot.inverts).plain])

theorem Snapshot.ofText?_text (s : Snapshot) : ofText? s.text = some s := by
  rw [ofText?, text, parse?_pretty (inverts.plain s), Option.bind_eq_bind, Option.bind_some,
    inverts.read]

/-- The text of a snapshot is JSON for this snapshot and is read back as it, so two snapshots with one
text are the same. -/
theorem read_back_snapshot : (∀ s : Snapshot, parse? s.text = some s.toJson ∧
    Snapshot.ofText? s.text = some s) ∧ Function.Injective Snapshot.text := by
  refine ⟨fun s => ⟨parse?_pretty (Snapshot.inverts.plain s), s.ofText?_text⟩, fun s t h => ?_⟩
  have hs := s.ofText?_text
  rw [h, t.ofText?_text] at hs
  exact (Option.some.inj hs).symm

end BlinkBench

import BlinkBench.Manifest.Load
/-!
# Manifests that cannot be used

A manifest is loaded unless there is nothing at its path, no manifest is found there, or the one that is
found fails a check. Each is told by a fault of its own.
-/
namespace BlinkBench

/-- What was found holds the text of a manifest. No directory does. -/
inductive FileEntry.Spells : FileEntry → Manifest → Prop where
  | file {content : ByteArray} {text : String} {m : Manifest}
      (hbytes : String.fromUTF8? content = some text) (htext : Manifest.ofYaml? text = some m) :
      Spells (.file content) m

/-- Why the manifest at a path cannot be used: there is nothing, there is no manifest, or it fails a
check. -/
inductive Manifest.Unusable (fs : Files) (path : String) : LoadFault → Prop where
  | unopened (hopen : fs.open? path = none) : Unusable fs path (.unopened path)
  | unreadable {entry : FileEntry} (hopen : fs.open? path = some entry)
      (hspells : ∀ m, ¬entry.Spells m) : Unusable fs path .unreadable
  | invalid {entry : FileEntry} {m : Manifest} {fault : ManifestFault}
      (hopen : fs.open? path = some entry) (hspells : entry.Spells m)
      (hcheck : m.validate = .error fault) : Unusable fs path (.invalid fault)

namespace Manifest

variable {fs : Files} {path : String} {fault : LoadFault}

theorem ofEntry_of_spells {entry : FileEntry} {m : Manifest} (h : entry.Spells m) :
    ofEntry path (some entry) = .error fault ↔ ∃ e, m.validate = .error e ∧ fault = .invalid e := by
  obtain ⟨hbytes, htext⟩ := h
  simp only [ofEntry, ofBytes, hbytes, ofText, htext]
  cases hcheck : m.validate <;> simp [eq_comm]

theorem ofEntry_of_not_spells {entry : FileEntry} (h : ∀ m, ¬entry.Spells m) :
    ofEntry path (some entry) = .error .unreadable := by
  cases entry with
  | directory => rfl
  | file content =>
    show ofBytes content = _
    unfold ofBytes
    split
    · rename_i text hbytes
      have htext : ofYaml? text = none := by
        apply Option.eq_none_iff_forall_ne_some.2
        intro m hm
        exact h m (.file hbytes hm)
      rw [ofText, htext]
    · rfl

theorem load_eq_error : load fs path = .error fault ↔ Unusable fs path fault := by
  unfold load
  constructor
  · intro h
    cases hopen : fs.open? path with
    | none =>
      rw [hopen] at h
      cases h
      exact .unopened hopen
    | some entry =>
      by_cases hspells : ∃ m, entry.Spells m
      · obtain ⟨m, hm⟩ := hspells
        rw [hopen] at h
        obtain ⟨e, hcheck, rfl⟩ := (ofEntry_of_spells hm).1 h
        exact .invalid hopen hm hcheck
      · have hnone := not_exists.1 hspells
        rw [hopen, ofEntry_of_not_spells hnone] at h
        cases h
        exact .unreadable hopen hnone
  · rintro (hopen | ⟨hopen, hspells⟩ | ⟨hopen, hspells, hcheck⟩)
    · rw [hopen]
      rfl
    · rw [hopen, ofEntry_of_not_spells hspells]
    · rw [hopen]
      exact (ofEntry_of_spells hspells).2 ⟨_, hcheck, rfl⟩

end Manifest

end BlinkBench

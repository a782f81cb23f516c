import BlinkBench.Files
/-!
# Reading what was written

A file that is written is found where it was written, by the same path: nothing that the path goes
through changes. Where directories are made, whether all of them or only some, the files stay as they
are.
-/
namespace BlinkBench.Files

variable {fs fs' : Files} {place place' : Place} {entry : FileEntry}

/-- What is put at a place is there. -/
theorem at?_put_self (hplace : place ≠ []) : (fs.put place entry).at? place = some entry := by
  unfold at? put
  rw [if_neg (by simpa using hplace), List.lookup_cons, BEq.rfl]

theorem lookup_filter_of_ne (hne : place' ≠ place) (l : List (Place × FileEntry)) :
    (l.filter (·.1 != place)).lookup place' = l.lookup place' := by
  induction l with
  | nil => rfl
  | cons e l ih =>
    rw [List.filter_cons, List.lookup_cons]
    by_cases he : e.1 = place
    · rw [if_neg (by simp [he]), ih, he, beq_false_of_ne hne]
    · rw [if_pos (by simp [he]), List.lookup_cons, ih]

/-- What is put at a place changes nothing anywhere else. -/
theorem at?_put_of_ne (hne : place' ≠ place) :
    (fs.put place entry).at? place' = fs.at? place' := by
  unfold at? put
  rw [List.lookup_cons, beq_false_of_ne hne]
  split
  · rfl
  · exact lookup_filter_of_ne hne fs.entries

/-- A directory stays one where something is put at a place that is none. -/
theorem isDirectory_put (hplace : fs.isDirectory place = false)
    (h : fs.isDirectory place' = true) : (fs.put place entry).isDirectory place' = true := by
  have hne : place' ≠ place := by
    rintro rfl
    rw [hplace] at h
    cases h
  unfold isDirectory at h ⊢
  rw [at?_put_of_ne hne]
  exact h

theorem descend_put (hplace : fs.isDirectory place = false) {part : String} {p q : Place}
    (h : fs.descend p part = some q) : (fs.put place entry).descend p part = some q := by
  have hdir : fs.isDirectory p = true := by
    cases hdir : fs.isDirectory p with
    | true => rfl
    | false => simp [descend, hdir] at h
  unfold descend at h ⊢
  rw [isDirectory_put hplace hdir]
  rw [hdir] at h
  exact h

/-- A path that can be followed leads to the same place where something is put at a place that is
no directory. -/
theorem foldlM_descend_put (hplace : fs.isDirectory place = false) {parts : List String}
    {p q : Place} (h : parts.foldlM fs.descend p = some q) :
    parts.foldlM (fs.put place entry).descend p = some q := by
  induction parts generalizing p with
  | nil => exact h
  | cons part parts ih =>
    rw [List.foldlM_cons] at h ⊢
    -- The path goes on from a directory, so the place that changes is not on the way.
    obtain ⟨mid, hmid, h⟩ := Option.bind_eq_some_iff.1 h
    exact Option.bind_eq_some_iff.2 ⟨mid, descend_put hplace hmid, ih h⟩

theorem resolve?_put (hplace : fs.isDirectory place = false) {text : String} {q : Place}
    (h : fs.resolve? text = some q) : (fs.put place entry).resolve? text = some q := by
  obtain ⟨path, hpath, h⟩ := Option.bind_eq_some_iff.1 h
  exact Option.bind_eq_some_iff.2 ⟨path, hpath, foldlM_descend_put hplace h⟩

/-- A file that was written can be read. -/
theorem open?_write {text : String} {content : ByteArray} (h : fs.write text content = some fs') :
    fs'.open? text = some (.file content) := by
  obtain ⟨place, hresolve, h⟩ := Option.bind_eq_some_iff.1 h
  split at h
  · cases h
  · rename_i hplace
    split at h
    · cases h
    · cases h
      have hplace : fs.isDirectory place = false := by simpa using hplace
      refine Option.bind_eq_some_iff.2 ⟨place, resolve?_put hplace hresolve, at?_put_self ?_⟩
      rintro rfl
      cases hplace

/-! ## Making directories -/

/-- The files at all places are the same. There may be other directories. -/
def SameFiles (fs fs' : Files) : Prop :=
  ∀ place content, fs'.at? place = some (.file content) ↔ fs.at? place = some (.file content)

theorem SameFiles.refl (fs : Files) : fs.SameFiles fs := fun _ _ => Iff.rfl

theorem SameFiles.trans {fs'' : Files} (h : fs.SameFiles fs') (h' : fs'.SameFiles fs'') :
    fs.SameFiles fs'' :=
  fun place content => (h' place content).trans (h place content)

theorem sameFiles_ensureDirectory (h : fs.ensureDirectory place = some fs') : fs.SameFiles fs' := by
  unfold ensureDirectory at h
  split at h
  · cases h
    exact .refl fs
  · cases h
  · rename_i hfree
    cases h
    intro place' content
    by_cases hne : place' = place
    · rw [hne, hfree, at?_put_self]
      · simp
      · rintro rfl
        cases hfree
    · rw [at?_put_of_ne hne]

theorem sameFiles_makeParts (parts : List String) (fs : Files) (place : Place) :
    fs.SameFiles (fs.makeParts place parts).1 := by
  induction parts generalizing fs place with
  | nil => exact .refl fs
  | cons part parts ih =>
    unfold makeParts
    split
    · exact .refl fs
    · rename_i next _
      split
      · exact .refl fs
      · rename_i fs' hmade
        exact (sameFiles_ensureDirectory hmade).trans (ih fs' next)

theorem sameFiles_makeLast {path : Path} (h : fs.makeLast path = some fs') : fs.SameFiles fs' := by
  obtain ⟨place, -, h⟩ := Option.bind_eq_some_iff.1 h
  split at h
  · exact sameFiles_ensureDirectory h
  · split at h
    · cases h
      exact .refl fs
    · cases h

/-- Whatever comes of it, making directories leaves the files as they are. -/
theorem sameFiles_tryDirectories (fs : Files) (text : String) :
    fs.SameFiles (fs.tryDirectories text).1 := by
  unfold tryDirectories
  split
  · exact .refl fs
  · rename_i path _
    have hway := sameFiles_makeParts path.way.dropLast fs (fs.start path)
    generalize fs.makeParts (fs.start path) path.way.dropLast = onWay at hway ⊢
    obtain ⟨fs', made⟩ := onWay
    cases made with
    | false => exact hway
    | true =>
      cases hlast : fs'.makeLast path with
      | none => simpa only [if_true, hlast] using hway
      | some fs'' =>
        simpa only [if_true, hlast] using hway.trans (sameFiles_makeLast hlast)

end BlinkBench.Files

/-!
# Maps in ascending order

A map as a list of its entries with ascending keys. Two maps with the same entries are equal, so
what is read from a map can be compared with what was put into it.
-/
namespace BlinkBench

/-- A list of keys with values in which the keys ascend. -/
structure AscendingMap (κ α : Type) [Ord κ] where
  entries : List (κ × α)
  ascending : entries.Pairwise fun a b => compare a.1 b.1 = .lt
deriving DecidableEq, Repr

namespace AscendingMap

variable {κ α : Type} [Ord κ]

/-- No entries. -/
def empty : AscendingMap κ α := ⟨[], .nil⟩

/-- Puts an entry to its place, over one with the same key. -/
def place (key : κ) (value : α) : List (κ × α) → List (κ × α)
  | [] => [(key, value)]
  | e :: rest =>
    match compare key e.1 with
    | .lt => (key, value) :: e :: rest
    | .eq => (key, value) :: rest
    | .gt => e :: place key value rest

theorem mem_place {key : κ} {value : α} {x : κ × α} {l : List (κ × α)}
    (h : x ∈ place key value l) : x = (key, value) ∨ x ∈ l := by
  induction l with
  | nil => exact .inl (by simpa [place] using h)
  | cons e rest ih =>
    unfold place at h
    split at h
    · simpa using h
    · exact (List.mem_cons.1 h).imp_right (List.mem_cons_of_mem _)
    · rcases List.mem_cons.1 h with h | h
      · exact .inr (h ▸ List.mem_cons_self)
      · exact (ih h).imp_right (List.mem_cons_of_mem _)

variable [Std.TransOrd κ] [Std.LawfulEqOrd κ]

theorem pairwise_place (key : κ) (value : α) {l : List (κ × α)}
    (h : l.Pairwise fun a b => compare a.1 b.1 = .lt) :
    (place key value l).Pairwise fun a b => compare a.1 b.1 = .lt := by
  induction l with
  | nil => simp [place]
  | cons e rest ih =>
    obtain ⟨he, hrest⟩ := List.pairwise_cons.1 h
    unfold place
    split
    · rename_i hlt
      refine List.pairwise_cons.2 ⟨fun x hx => ?_, h⟩
      rcases List.mem_cons.1 hx with rfl | hx
      · exact hlt
      · exact Std.TransCmp.lt_trans hlt (he x hx)
    · rename_i heq
      refine List.pairwise_cons.2 ⟨fun x hx => ?_, hrest⟩
      exact (Std.LawfulEqOrd.eq_of_compare heq) ▸ he x hx
    · rename_i hgt
      refine List.pairwise_cons.2 ⟨fun x hx => ?_, ih hrest⟩
      rcases mem_place hx with rfl | hx
      · exact Std.OrientedCmp.gt_iff_lt.1 hgt
      · exact he x hx

/-- Adds an entry, in place of one with the same key. -/
def insert (m : AscendingMap κ α) (key : κ) (value : α) : AscendingMap κ α :=
  ⟨place key value m.entries, pairwise_place key value m.ascending⟩

/-- The map of some entries. Of two with the same key, the later one counts. -/
def ofList (l : List (κ × α)) : AscendingMap κ α :=
  l.foldl (fun m e => m.insert e.1 e.2) empty

omit [Std.TransOrd κ] [Std.LawfulEqOrd κ]

/-- The value of a key. -/
def find? [BEq κ] (m : AscendingMap κ α) (key : κ) : Option α :=
  m.entries.lookup key

/-- Whether there is an entry with a key. -/
def contains [BEq κ] (m : AscendingMap κ α) (key : κ) : Bool :=
  m.entries.any (·.1 == key)

/-- The same keys with other values. -/
def mapValues {β : Type} (m : AscendingMap κ α) (f : κ → α → β) : AscendingMap κ β where
  entries := m.entries.map fun e => (e.1, f e.1 e.2)
  ascending := by
    rw [List.pairwise_map]
    exact m.ascending

end AscendingMap

end BlinkBench

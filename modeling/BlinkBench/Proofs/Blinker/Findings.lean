import BlinkBench.Proofs.Blinker.Record
/-!
# Blinkers that find the same

Blinkers on the record can be compared, whatever worlds they are in. Where their runs find the same, they
cannot be told from one another.
-/
namespace BlinkBench

namespace Setting

/-- A fresh blinker in a world with a record of all its actions. -/
def onRecord {ω : Type} (world : ω) : Setting (Recorded ω) :=
  ⟨{}, ⟨world, []⟩⟩

/-- What can be told of a blinker behind some operations without a look at its world: what has become of
it, what it did, and what it answered. -/
def seen {ω : Type} (e : Setting (Recorded ω) × List Reply) : Blinker × List Action × List Reply :=
  (e.1.blinker, e.1.world.actions, e.2)

variable {ω υ : Type} [Environment ω] [Environment υ]

/-- The same blinker behind the same actions, in two worlds. -/
structure Matches (s : Setting (Recorded ω)) (t : Setting (Recorded υ)) : Prop where
  blinker : s.blinker = t.blinker
  actions : s.world.actions = t.world.actions

theorem Matches.lockstep : Lockstep (Matches (ω := ω) (υ := υ)) where
  blinker hst := hst.blinker
  act := by
    intro s t hst f
    rw [hst.blinker]
    refine ⟨rfl, ?_⟩
    rw [act, act, Recorded.chronicle.performAll, Recorded.chronicle.performAll, hst.actions]

theorem Matches.operateAll? {s : Setting (Recorded ω)} {t : Setting (Recorded υ)} (h : s.Matches t)
    (fuel : Nat) {ops : List Operation}
    (hfound : Agree (s.findingsAll fuel ops) (t.findingsAll fuel ops)) :
    (s.operateAll? fuel ops).map seen = (t.operateAll? fuel ops).map seen := by
  induction ops generalizing s t with
  | nil => simp only [Setting.operateAll?, Option.map_some, seen, h.blinker, h.actions]
  | cons op ops ih =>
    obtain ⟨hrest, ⟨hs, ht⟩ | ⟨s', t', reply, hs, ht, hmatch⟩⟩ := Matches.lockstep.operate? h fuel op hfound
    · simp only [Setting.operateAll?, hs, ht]
      rfl
    · rw [hs, ht] at hrest
      rw [operateAll?_of_operate? hs, operateAll?_of_operate? ht, Option.map_map, Option.map_map]
      have hseen := congrArg (Option.map fun x => (x.1, x.2.1, reply :: x.2.2)) (ih hmatch hrest)
      rwa [Option.map_map, Option.map_map] at hseen

end Setting

end BlinkBench

import BlinkBench.Proofs.Folds
import Mathlib.Data.List.Induction
/-!
# Lists of checks

What can be wrong with something is a list of checks, and of those that are violated the first one is
reported. Steps over a list that may fail report the checks of its elements, where each element is
checked against those before it.
-/
namespace BlinkBench

/-- Something that must not be so, and what is reported where it is. -/
structure Check (ε : Type) where
  violated : Prop
  fault : ε

/-- The elements of a list, each with those before it. -/
def eachBehind {α : Type} (l : List α) : List (List α × α) :=
  l.mapIdx fun i x => (l.take i, x)

theorem eachBehind_concat {α : Type} (l : List α) (x : α) :
    eachBehind (l ++ [x]) = eachBehind l ++ [(l, x)] := by
  rw [eachBehind, List.mapIdx_concat, List.take_left, eachBehind]
  congr 1
  refine List.mapIdx_eq_mapIdx_iff.2 fun i hi => ?_
  rw [List.take_append_of_le_length (Nat.le_of_lt hi)]

theorem forall_eachBehind_concat {α : Type} {l : List α} {x : α} {P : List α × α → Prop} :
    (∀ e ∈ eachBehind (l ++ [x]), P e) ↔ (∀ e ∈ eachBehind l, P e) ∧ P (l, x) := by
  rw [eachBehind_concat, List.forall_mem_append, List.forall_mem_singleton]

theorem forall_eachBehind {α : Type} {l : List α} {P : α → Prop} :
    (∀ e ∈ eachBehind l, P e.2) ↔ ∀ x ∈ l, P x := by
  induction l using List.reverseRecOn with
  | nil => simp [eachBehind]
  | append_singleton l x ih =>
    rw [forall_eachBehind_concat, ih, List.forall_mem_append, List.forall_mem_singleton]

/-- Nothing occurs twice where each element differs from those before it. -/
theorem nodup_map_iff {α β : Type} (f : α → β) (l : List α) :
    (l.map f).Nodup ↔ ∀ e ∈ eachBehind l, ∀ q ∈ e.1, f q ≠ f e.2 := by
  induction l using List.reverseRecOn with
  | nil => simp [eachBehind]
  | append_singleton l x ih =>
    rw [forall_eachBehind_concat, ← ih, List.map_append, List.nodup_append]
    simp

namespace Check

variable {ε σ τ α : Type} {c : Check ε} {checks more : List (Check ε)} {x : Except ε σ}

/-- Of some checks the first one that is violated is reported. Where none is, there is no fault. -/
def Verdict (checks : List (Check ε)) : Except ε σ → Prop
  | .ok _ => ∀ c ∈ checks, ¬ c.violated
  | .error e => ∃ before c behind, checks = before ++ c :: behind ∧
      (∀ b ∈ before, ¬ b.violated) ∧ c.violated ∧ c.fault = e

theorem Verdict.ok_iff (h : Verdict checks x) : (∃ s, x = .ok s) ↔ ∀ c ∈ checks, ¬ c.violated := by
  cases x with
  | ok s => exact ⟨fun _ => h, fun _ => ⟨s, rfl⟩⟩
  | error e =>
    obtain ⟨before, c, behind, rfl, -, hc, -⟩ := h
    constructor
    · rintro ⟨s, hs⟩
      cases hs
    · intro hnone
      exact absurd hc (hnone c (by simp))

/-! ## One check behind the other -/

theorem verdict_nil (s : σ) : Verdict ([] : List (Check ε)) (.ok s) := by
  intro c hc
  cases hc

/-- The first check is violated, so it is reported whatever the others are. -/
theorem verdict_of_violated (hc : c.violated) (checks : List (Check ε)) :
    Verdict (c :: checks) (.error c.fault : Except ε σ) :=
  ⟨[], c, checks, rfl, nofun, hc, rfl⟩

theorem Verdict.cons (hc : ¬ c.violated) (h : Verdict checks x) : Verdict (c :: checks) x := by
  cases x with
  | ok s => exact List.forall_mem_cons.2 ⟨hc, h⟩
  | error e =>
    obtain ⟨before, d, behind, rfl, hbefore, hd⟩ := h
    exact ⟨c :: before, d, behind, rfl, List.forall_mem_cons.2 ⟨hc, hbefore⟩, hd⟩

/-- What is checked where a first result is there comes behind what is checked for it. -/
theorem Verdict.bind {f : σ → Except ε τ} (h : Verdict checks x)
    (hf : ∀ s, x = .ok s → Verdict more (f s)) : Verdict (checks ++ more) (x >>= f) := by
  cases x with
  | error e =>
    obtain ⟨before, c, behind, rfl, hc⟩ := h
    exact ⟨before, c, behind ++ more, by simp, hc⟩
  | ok s =>
    show Verdict _ (f s)
    have hmore := hf s rfl
    cases hs : f s with
    | ok t =>
      rw [hs] at hmore
      exact List.forall_mem_append.2 ⟨h, hmore⟩
    | error e =>
      rw [hs] at hmore
      obtain ⟨before, c, behind, rfl, hbefore, hc⟩ := hmore
      exact ⟨checks ++ before, c, behind, by simp, List.forall_mem_append.2 ⟨h, hbefore⟩, hc⟩

/-! ## One element behind the other -/

/-- A step makes the checks on its element, whatever the elements before it are. All that it knows of
these is what was seen of them. -/
structure MadeBy (checks : List α → α → List (Check ε)) (f : σ → α → Except ε σ)
    (Seen : List α → σ → Prop) : Prop where
  verdict : ∀ {before x s}, Seen before s → Verdict (checks before x) (f s x)
  seen : ∀ {before x s s'}, Seen before s → f s x = .ok s' → Seen (before ++ [x]) s'

/-- Steps over a list report the checks on its elements, each made against those before it. -/
theorem MadeBy.foldlM {checks : List α → α → List (Check ε)} {f : σ → α → Except ε σ}
    {Seen : List α → σ → Prop} (h : MadeBy checks f Seen) {s : σ} (hs : Seen [] s) (l : List α) :
    Verdict ((eachBehind l).flatMap fun e => checks e.1 e.2) (l.foldlM f s) ∧
      ∀ s', l.foldlM f s = .ok s' → Seen l s' := by
  -- Each element is checked against those before it, so the induction takes the last one off.
  induction l using List.reverseRecOn with
  | nil =>
    refine ⟨verdict_nil s, ?_⟩
    rintro s' hs'
    cases hs'
    exact hs
  | append_singleton l x ih =>
    obtain ⟨hverdict, hl⟩ := ih
    have hlast : (l ++ [x]).foldlM f s = l.foldlM f s >>= fun s' => f s' x := by
      simp [List.foldlM_append]
    rw [hlast, eachBehind_concat, List.flatMap_append, List.flatMap_singleton]
    refine ⟨hverdict.bind fun s' hs' => h.verdict (hl s' hs'), fun s' hs' => ?_⟩
    obtain ⟨mid, hmid, hx⟩ := bind_eq_ok hs'
    exact h.seen (hl mid hmid) hx

end Check

end BlinkBench

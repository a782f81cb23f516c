import BlinkBench.Proofs.Blinker.Lockstep
/-!
# Blinkers on the record

A blinker does the same in worlds that cancel its runs at the same moments. So a world may keep a
record of all actions without changing anything, and what a blinker does to its port and its delay
can be read from the record.
-/
namespace BlinkBench

open Environment

/-! ## Operations one after another -/

namespace Setting

variable {ω : Type} [Environment ω] {s s' : Setting ω} {fuel : Nat}

theorem operateAll?_of_operate? {op : Operation} {reply : Reply}
    (hop : s.operate? fuel op = some (s', reply)) (ops : List Operation) :
    s.operateAll? fuel (op :: ops) =
      (s'.operateAll? fuel ops).map fun e => (e.1, reply :: e.2) := by
  simp only [operateAll?, hop, Option.bind_eq_bind, Option.bind_some]
  cases s'.operateAll? fuel ops <;> rfl

theorem operateAll?_cons {op : Operation} {ops : List Operation} {replies : List Reply} :
    s.operateAll? fuel (op :: ops) = some (s', replies) ↔ ∃ mid reply rest,
      s.operate? fuel op = some (mid, reply) ∧ mid.operateAll? fuel ops = some (s', rest) ∧
      replies = reply :: rest := by
  simp only [operateAll?, Option.bind_eq_bind, Option.bind_eq_some_iff, Option.pure_def,
    Option.some.injEq, Prod.mk.injEq, Prod.exists]
  constructor
  · rintro ⟨mid, reply, hop, t, rest, hops, rfl, rfl⟩
    exact ⟨mid, reply, rest, hop, hops, rfl⟩
  · rintro ⟨mid, reply, rest, hop, hops, rfl⟩
    exact ⟨mid, reply, hop, s', rest, hops, rfl, rfl⟩

theorem operateAll?_append {ops ops' : List Operation} {replies : List Reply} :
    s.operateAll? fuel (ops ++ ops') = some (s', replies) ↔ ∃ mid first rest,
      s.operateAll? fuel ops = some (mid, first) ∧ mid.operateAll? fuel ops' = some (s', rest) ∧
      replies = first ++ rest := by
  induction ops generalizing s replies with
  | nil =>
    constructor
    · intro hops
      exact ⟨s, [], replies, rfl, hops, rfl⟩
    · rintro ⟨mid, first, rest, hnil, hops, rfl⟩
      cases hnil
      exact hops
  | cons op ops ih =>
    simp only [List.cons_append, operateAll?_cons, ih]
    constructor
    · rintro ⟨t, reply, _, hop, ⟨mid, first, rest, hops, hops', rfl⟩, rfl⟩
      exact ⟨mid, reply :: first, rest, ⟨t, reply, first, hop, hops, rfl⟩, hops', rfl⟩
    · rintro ⟨mid, _, rest, ⟨t, reply, first, hop, hops, rfl⟩, hops', rfl⟩
      exact ⟨t, reply, first ++ rest, hop, ⟨mid, first, rest, hops, hops', rfl⟩, rfl⟩

end Setting

/-! ## Worlds that go on alike -/

section Simulation

variable {ω υ : Type} [Environment ω] [Environment υ] {R : ω → υ → Prop}

/-- Two worlds stay related whatever is done in them, and runs look alike in them. -/
structure Simulation (R : ω → υ → Prop) : Prop where
  perform : ∀ {w v} (a : Action), R w v → R (perform w a) (perform v a)
  isCancelled : ∀ {w v}, R w v → isCancelled w = isCancelled v

/-- The same blinker in related worlds. -/
structure Setting.Alike (R : ω → υ → Prop) (s : Setting ω) (t : Setting υ) : Prop where
  blinker : s.blinker = t.blinker
  world : R s.world t.world

namespace Simulation

theorem performAll (h : Simulation R) {w : ω} {v : υ} (hw : R w v) (actions : List Action) :
    R (performAll w actions) (performAll v actions) := by
  induction actions generalizing w v with
  | nil => exact hw
  | cons a actions ih => exact ih (h.perform a hw)

variable {s : Setting ω} {t : Setting υ}

theorem lockstep (h : Simulation R) : Setting.Lockstep (Setting.Alike R) where
  blinker hst := hst.blinker
  act := by
    intro s t hst f
    rw [hst.blinker]
    exact ⟨rfl, h.performAll hst.world _⟩

/-- Runs find the same in related worlds. -/
theorem loopFindings (h : Simulation R) (hst : s.Alike R t) (budget : Nat) :
    s.loopFindings budget = t.loopFindings budget := by
  induction budget generalizing s t with
  | zero => simp only [Setting.loopFindings, h.isCancelled hst.world]
  | succ budget ih =>
    have hstep : s.step.Alike R t.step := h.lockstep.act hst Blinker.step
    simp only [Setting.loopFindings, h.isCancelled hst.world, ih hstep]

theorem findings (h : Simulation R) (hst : s.Alike R t) (fuel : Nat) (op : Operation) :
    s.findings fuel op = t.findings fuel op := by
  have hstart := h.lockstep.act hst Blinker.start
  cases op with
  | observe | setDirection | pause | step => rfl
  | run | runBounded => exact h.loopFindings hstart _

/-- An operation is answered alike. -/
theorem operate? (h : Simulation R) (hst : s.Alike R t) {fuel : Nat} {op : Operation}
    {s' : Setting ω} {reply : Reply} (hop : s.operate? fuel op = some (s', reply)) :
    ∃ t', t.operate? fuel op = some (t', reply) ∧ s'.Alike R t' := by
  have hfound : Setting.Agree (s.findings fuel op ++ []) (t.findings fuel op ++ []) :=
    Setting.agree_of_eq (by rw [h.findings hst])
  obtain ⟨-, ⟨hnone, -⟩ | ⟨s₁, t₁, reply₁, hs, ht, hst₁⟩⟩ := h.lockstep.operate? hst fuel op hfound
  · rw [hnone] at hop
    cases hop
  · rw [hs] at hop
    cases hop
    exact ⟨t₁, ht, hst₁⟩

/-- Operations one after another are answered alike. -/
theorem operateAll? (h : Simulation R) (hst : s.Alike R t) {fuel : Nat} {ops : List Operation}
    {s' : Setting ω} {replies : List Reply} (hops : s.operateAll? fuel ops = some (s', replies)) :
    ∃ t', t.operateAll? fuel ops = some (t', replies) ∧ s'.Alike R t' := by
  induction ops generalizing s t replies with
  | nil =>
    cases hops
    exact ⟨t, rfl, hst⟩
  | cons op ops ih =>
    obtain ⟨mid, reply, rest, hop, hrest, rfl⟩ := Setting.operateAll?_cons.1 hops
    obtain ⟨t₁, ht₁, hst₁⟩ := h.operate? hst hop
    obtain ⟨t₂, ht₂, hst₂⟩ := ih hst₁ hrest
    exact ⟨t₂, Setting.operateAll?_cons.2 ⟨t₁, reply, rest, ht₁, ht₂, rfl⟩, hst₂⟩

end Simulation

end Simulation

/-! ## The record -/

/-- A world from which all actions in it can be told, oldest first. -/
structure Chronicle {ω : Type} [Environment ω] (history : ω → List Action) : Prop where
  perform : ∀ w a, history (perform w a) = history w ++ [a]

theorem Chronicle.performAll {ω : Type} [Environment ω] {history : ω → List Action}
    (h : Chronicle history) (w : ω) (actions : List Action) :
    history (performAll w actions) = history w ++ actions := by
  induction actions generalizing w with
  | nil => simp [Environment.performAll]
  | cons a actions ih =>
    simp only [Environment.performAll, List.foldl_cons] at ih ⊢
    rw [ih, h.perform]
    simp

/-- A world with all actions so far, oldest first. -/
structure Recorded (ω : Type) where
  world : ω
  actions : List Action := []

namespace Recorded

variable {ω : Type} [Environment ω]

instance : Environment (Recorded ω) where
  perform r a := ⟨perform r.world a, r.actions ++ [a]⟩
  isCancelled r := isCancelled r.world

/-- A record changes nothing. -/
theorem simulation : Simulation fun (w : ω) (r : Recorded ω) => r.world = w where
  perform _ h := h ▸ rfl
  isCancelled h := h ▸ rfl

theorem chronicle : Chronicle (Recorded.actions (ω := ω)) where
  perform _ _ := rfl

/-- Whatever operations do in a world, they do it in a world with a record too. -/
theorem operateAll? {fuel : Nat} {blinker : Blinker} {world : ω} {ops : List Operation}
    {s : Setting ω} {replies : List Reply}
    (h : (⟨blinker, world⟩ : Setting ω).operateAll? fuel ops = some (s, replies)) :
    ∃ actions, (⟨blinker, ⟨world, []⟩⟩ : Setting (Recorded ω)).operateAll? fuel ops =
      some (⟨s.blinker, ⟨s.world, actions⟩⟩, replies) := by
  obtain ⟨⟨b, ⟨w, actions⟩⟩, ht, hb, hw⟩ := simulation.operateAll?
    (t := (⟨blinker, ⟨world, []⟩⟩ : Setting (Recorded ω))) ⟨rfl, rfl⟩ h
  simp only at hb hw
  subst hb hw
  exact ⟨actions, ht⟩

end Recorded

end BlinkBench

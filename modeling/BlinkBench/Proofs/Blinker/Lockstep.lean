import BlinkBench.Blinker.Operation
/-!
# Blinkers in lockstep

All that a blinker learns from the world it acts in is whether a run is cancelled when it looks. So two
blinkers that find the same in their worlds do the same, and give the same answers.
-/
namespace BlinkBench

open Environment

namespace Setting

variable {ω υ : Type} [Environment ω] [Environment υ]

/-! ## What runs find when they look -/

/-- What a run finds, each time it looks whether it is cancelled. -/
def loopFindings (s : Setting ω) : (budget : Nat) → List Bool
  | 0 => [isCancelled s.world]
  | budget + 1 => if isCancelled s.world then [true] else false :: s.step.loopFindings budget

/-- What an operation finds, each time it looks. -/
def findings (fuel : Nat) (s : Setting ω) : Operation → List Bool
  | .run => (s.act s.blinker.start).loopFindings fuel
  | .runBounded maxToggles => (s.act s.blinker.start).loopFindings maxToggles.toNat
  | .observe _ | .setDirection | .pause | .step => []

/-- What operations find one after another, as far as they are answered. -/
def findingsAll (fuel : Nat) (s : Setting ω) : List Operation → List Bool
  | [] => []
  | op :: ops =>
    s.findings fuel op ++ (s.operate? fuel op).elim [] fun e => e.1.findingsAll fuel ops

/-- Wherever both have found something, they have found the same. -/
def Agree (l l' : List Bool) : Prop :=
  ∀ (i : Nat) (b b' : Bool), l[i]? = some b → l'[i]? = some b' → b = b'

theorem agree_of_eq {l l' : List Bool} (h : l = l') : Agree l l' := by
  intro i b b' hb hb'
  rw [← h, hb] at hb'
  exact Option.some.inj hb'

theorem agree_cons {a a' : Bool} {l l' : List Bool} (h : Agree (a :: l) (a' :: l')) :
    a = a' ∧ Agree l l' :=
  ⟨h 0 a a' rfl rfl, fun i b b' hb hb' => h (i + 1) b b' hb hb'⟩

theorem loopFindings_eq_cons (s : Setting ω) (budget : Nat) :
    ∃ rest, s.loopFindings budget = isCancelled s.world :: rest := by
  cases budget with
  | zero => exact ⟨[], rfl⟩
  | succ budget =>
    rw [loopFindings]
    split <;> rename_i h <;> simp [h]

/-! ## Related blinkers -/

/-- A relation between settings of the same blinker, which stay related whatever the blinker does. -/
structure Lockstep (Q : Setting ω → Setting υ → Prop) : Prop where
  blinker : ∀ {s t}, Q s t → s.blinker = t.blinker
  act : ∀ {s t}, Q s t → ∀ f : Blinker → Blinker × List Action,
    Q (s.act (f s.blinker)) (t.act (f t.blinker))

namespace Lockstep

variable {Q : Setting ω → Setting υ → Prop} {s : Setting ω} {t : Setting υ}

/-- Runs that find the same come equally far. They agree on what is found behind them too. -/
theorem loop (h : Lockstep Q) (hst : Q s t) (done budget : Nat) {l l' : List Bool}
    (hfound : Agree (s.loopFindings budget ++ l) (t.loopFindings budget ++ l')) :
    Agree l l' ∧ Q (s.loop done budget).setting (t.loop done budget).setting ∧
      (s.loop done budget).toggles = (t.loop done budget).toggles ∧
      (s.loop done budget).cancelled = (t.loop done budget).cancelled := by
  induction budget generalizing s t done with
  | zero =>
    obtain ⟨hcancelled, hl⟩ := agree_cons hfound
    rw [Setting.loop_zero, Setting.loop_zero]
    exact ⟨hl, hst, rfl, hcancelled⟩
  | succ budget ih =>
    -- The first look of the one run finds what the first look of the other one finds.
    have hlook : isCancelled s.world = isCancelled t.world := by
      obtain ⟨rest, hs⟩ := s.loopFindings_eq_cons (budget + 1)
      obtain ⟨rest', ht⟩ := t.loopFindings_eq_cons (budget + 1)
      rw [hs, ht] at hfound
      exact (agree_cons hfound).1
    simp only [loopFindings, Setting.loop_succ, hlook] at hfound ⊢
    split at hfound
    · rename_i hcancelled
      rw [if_pos hcancelled, if_pos hcancelled]
      exact ⟨(agree_cons hfound).2, hst, rfl, rfl⟩
    · rename_i hcancelled
      rw [if_neg hcancelled, if_neg hcancelled]
      exact ih (h.act hst Blinker.step) (done + 1) (agree_cons hfound).2

theorem finish (h : Lockstep Q) {p : Progress ω} {q : Progress υ} (hs : Q p.setting q.setting)
    (ht : p.toggles = q.toggles) (reason : StopReason) :
    Q (Setting.finish p reason).1 (Setting.finish q reason).1 ∧
      (Setting.finish p reason).2 = (Setting.finish q reason).2 := by
  refine ⟨?_, by simp only [Setting.finish, ht, h.blinker hs]⟩
  simp only [Setting.finish, ht]
  exact h.act hs fun b => (b, (b.finish (UInt64.ofNat q.toggles) reason).2)

/-- An operation that finds the same is answered alike, or not at all in either world. -/
theorem operate? (h : Lockstep Q) (hst : Q s t) (fuel : Nat) (op : Operation) {l l' : List Bool}
    (hfound : Agree (s.findings fuel op ++ l) (t.findings fuel op ++ l')) : Agree l l' ∧
      ((s.operate? fuel op = none ∧ t.operate? fuel op = none) ∨
        ∃ s' t' reply, s.operate? fuel op = some (s', reply) ∧
          t.operate? fuel op = some (t', reply) ∧ Q s' t') := by
  have hstart := h.act hst Blinker.start
  cases op with
  | observe observer =>
    exact ⟨hfound, .inr ⟨_, _, _, rfl, rfl, h.act hst fun b => (b.observe observer, [])⟩⟩
  | setDirection => exact ⟨hfound, .inr ⟨_, _, _, rfl, rfl, h.act hst Blinker.setDirection⟩⟩
  | pause => exact ⟨hfound, .inr ⟨_, _, _, rfl, rfl, h.act hst Blinker.pause⟩⟩
  | step =>
    have hstep : Q s.step t.step := h.act hst Blinker.step
    exact ⟨hfound, .inr ⟨_, _, _, rfl, by rw [h.blinker hstep]; rfl, hstep⟩⟩
  | run =>
    obtain ⟨hl, hs, ht, hc⟩ := h.loop hstart 0 fuel hfound
    refine ⟨hl, ?_⟩
    simp only [Setting.operate?, Setting.run?, hc]
    split
    · obtain ⟨hf, hr⟩ := h.finish hs ht .cancelled
      exact .inr ⟨_, _, _, rfl, by rw [hr]; rfl, hf⟩
    · exact .inl ⟨rfl, rfl⟩
  | runBounded maxToggles =>
    obtain ⟨hl, hs, ht, hc⟩ := h.loop hstart 0 maxToggles.toNat hfound
    refine ⟨hl, .inr ?_⟩
    simp only [Setting.operate?, Setting.runBounded, hc]
    obtain ⟨hf, hr⟩ := h.finish hs ht _
    exact ⟨_, _, _, rfl, by rw [hr], hf⟩

end Lockstep

end Setting

end BlinkBench

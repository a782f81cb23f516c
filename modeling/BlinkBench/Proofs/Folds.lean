import Mathlib.Init
/-!
# Steps that may fail

Steps over a list stop at the first element at which one fails. Where the states of two kinds of
steps stay related, the one fails at no element before the other does.
-/
namespace BlinkBench

variable {σ τ α ε ε' : Type}

theorem bind_eq_ok {x : Except ε σ} {f : σ → Except ε τ} {t : τ} (h : x >>= f = .ok t) :
    ∃ s, x = .ok s ∧ f s = .ok t := by
  cases x with
  | error e => cases h
  | ok s => exact ⟨s, rfl, h⟩

theorem bind_eq_error {x : Except ε σ} {f : σ → Except ε τ} {e : ε} (h : x >>= f = .error e) :
    x = .error e ∨ ∃ s, x = .ok s ∧ f s = .error e := by
  cases x with
  | error e' =>
    cases h
    exact .inl rfl
  | ok s => exact .inr ⟨s, rfl, h⟩

theorem mapError_eq_ok {x : Except ε σ} {f : ε → ε'} {s : σ} (h : x.mapError f = .ok s) :
    x = .ok s := by
  cases x with
  | error e => cases h
  | ok s' =>
    cases h
    rfl

theorem mapError_eq_error {x : Except ε σ} {f : ε → ε'} {e' : ε'} (h : x.mapError f = .error e') :
    ∃ e, x = .error e ∧ e' = f e := by
  cases x with
  | error e => exact ⟨e, rfl, (Except.error.inj h).symm⟩
  | ok s => cases h

/-- What takes back each element of a list takes back the list. -/
theorem mapM_map_eq_some {f : α → σ} {g : σ → Option α} (h : ∀ a, g (f a) = some a) (l : List α) :
    (l.map f).mapM g = some l := by
  induction l with
  | nil => rfl
  | cons a l ih =>
    rw [List.map_cons, List.mapM_cons, h, ih]
    rfl

variable {f : σ → α → Except ε σ} {g : τ → α → Except ε' τ} {R : σ → τ → Prop}

theorem foldlM_snoc {s s' : σ} {l : List α} {x : α} (h : l.foldlM f s = .ok s') :
    (l ++ [x]).foldlM f s = f s' x := by
  rw [List.foldlM_append, h]
  cases hx : f s' x with
  | error e => simp [bind, Except.bind, hx]
  | ok s'' => simp [bind, Except.bind, hx, pure, Except.pure]

/-- Steps that do not get through fail at an element up to which they do. -/
theorem foldlM_eq_error {s : σ} {l : List α} {e : ε} (h : l.foldlM f s = .error e) :
    ∃ before x behind s', l = before ++ x :: behind ∧ before.foldlM f s = .ok s' ∧
      f s' x = .error e := by
  induction l generalizing s with
  | nil => cases h
  | cons y l ih =>
    rw [List.foldlM_cons] at h
    rcases bind_eq_error h with hy | ⟨mid, hy, h⟩
    · exact ⟨[], y, l, s, rfl, rfl, hy⟩
    · obtain ⟨before, x, behind, s', rfl, hbefore, hx⟩ := ih h
      refine ⟨y :: before, x, behind, s', rfl, ?_, hx⟩
      rw [List.foldlM_cons, hy]
      exact hbefore

/-- Steps that fail at an element do so whatever comes behind it. -/
theorem foldlM_append_error {s : σ} {l l' : List α} {e : ε} (h : l.foldlM f s = .error e) :
    (l ++ l').foldlM f s = .error e := by
  rw [List.foldlM_append, h]
  rfl

/-- What each step keeps, all of them keep. -/
theorem foldlM_keeps {P : σ → Prop} (hstep : ∀ s x s', P s → f s x = .ok s' → P s')
    {s s' : σ} {l : List α} (hs : P s) (h : l.foldlM f s = .ok s') : P s' := by
  induction l generalizing s with
  | nil =>
    cases h
    exact hs
  | cons x l ih =>
    rw [List.foldlM_cons] at h
    obtain ⟨mid, hx, h⟩ := bind_eq_ok h
    exact ih (hstep s x mid hs hx) h

/-- Steps that can follow others one by one can follow all of them. -/
theorem foldlM_simulates
    (hstep : ∀ s t s' x, R s t → f s x = .ok s' → ∃ t', g t x = .ok t' ∧ R s' t')
    {s s' : σ} {t : τ} {l : List α} (hR : R s t) (h : l.foldlM f s = .ok s') :
    ∃ t', l.foldlM g t = .ok t' ∧ R s' t' := by
  induction l generalizing s t with
  | nil =>
    cases h
    exact ⟨t, rfl, hR⟩
  | cons x l ih =>
    -- One step on either side, and the rest from states that are related again.
    rw [List.foldlM_cons] at h
    obtain ⟨mid, hx, h⟩ := bind_eq_ok h
    obtain ⟨t₁, ht₁, hR₁⟩ := hstep s t mid x hR hx
    rw [List.foldlM_cons, ht₁]
    exact ih hR₁ h

/-- Steps that each add to what is seen of a state add all of it one behind the other. -/
theorem foldlM_collects {β : Type} (view : σ → List β) (part : α → List β)
    (hstep : ∀ s s' x, f s x = .ok s' → view s' = view s ++ part x)
    {s s' : σ} {l : List α} (h : l.foldlM f s = .ok s') : view s' = view s ++ l.flatMap part := by
  induction l generalizing s with
  | nil =>
    cases h
    simp
  | cons x l ih =>
    rw [List.foldlM_cons] at h
    obtain ⟨mid, hx, h⟩ := bind_eq_ok h
    rw [ih h, hstep s mid x hx, List.flatMap_cons, List.append_assoc]

end BlinkBench

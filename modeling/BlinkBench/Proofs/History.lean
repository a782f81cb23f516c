import BlinkBench.History
/-!
# What a history shows

However the values that a history holds are dropped in batches, it shows the last of all that were
pushed, up to its limit, and it never holds twice as many. `shows_last` says so for every limit and all
values since the beginning.
-/
namespace BlinkBench.History

/-- A history behind some values, oldest first. Of those that are dropped none is to be shown. -/
structure Keeps (h : History) (values : List UInt8) : Prop where
  held : h.held <+: values.reverse
  enough : min values.length h.limit ≤ h.held.length
  total : h.total = UInt64.ofNat values.length

theorem Keeps.new (limit : Nat) : (History.new limit).Keeps [] where
  held := List.prefix_rfl
  enough := Nat.zero_le _
  total := rfl

@[simp] theorem limit_push (h : History) (v : UInt8) : (h.push v).limit = h.limit := by
  unfold push
  split <;> rfl

variable {h : History} {values : List UInt8}

theorem Keeps.push (hk : h.Keeps values) (v : UInt8) : (h.push v).Keeps (values ++ [v]) := by
  have htotal : h.total + 1 = UInt64.ofNat (values ++ [v]).length := by
    rw [hk.total, List.length_append, UInt64.ofNat_add]
    rfl
  have hheld : v :: h.held <+: (values ++ [v]).reverse := by
    rw [List.reverse_append]
    exact List.cons_prefix_cons.2 ⟨rfl, hk.held⟩
  have henough := hk.enough
  unfold History.push
  split
  · exact ⟨hheld, by simp only [List.length_append, List.length_cons, List.length_nil]; omega,
      htotal⟩
  · refine ⟨(List.take_prefix _ _).trans hheld, ?_, htotal⟩
    simp only [List.length_append, List.length_take, List.length_cons, List.length_nil]
    omega

/-- A history shows the last values, up to its limit. -/
theorem Keeps.recent (hk : h.Keeps values) :
    h.recent = values.drop (values.length - h.limit) := by
  have hheld := List.prefix_iff_eq_take.1 hk.held
  have henough := hk.enough
  have hshown : h.held.take h.limit = values.reverse.take h.limit := by
    rw [hheld, List.take_take]
    by_cases hlimit : h.limit ≤ h.held.length
    · rw [Nat.min_eq_left hlimit]
    · -- Less is held than may be shown, so nothing was dropped.
      rw [Nat.min_eq_right (by omega), List.take_of_length_le (by simp; omega),
        List.take_of_length_le (by simp; omega)]
  rw [History.recent, hshown, List.take_reverse, List.reverse_reverse]

/-- The newest value shown is the last one that was pushed. -/
theorem Keeps.getLast?_recent (hk : h.Keeps values) : h.recent.getLast? = values.getLast? := by
  have hpos := h.limit_pos
  rw [hk.recent, List.getLast?_drop]
  split
  · -- A history shows one value at least, so there was none.
    have hnone : values.length = 0 := by omega
    rw [List.length_eq_zero_iff.1 hnone]
    rfl
  · rfl

theorem newest?_eq (h : History) : h.newest? = h.recent.getLast? := by
  have hpos := h.limit_pos
  unfold newest? recent
  rw [List.getLast?_reverse, List.head?_take, if_neg (by omega)]

/-! ## One value at a time -/

theorem window_new (limit : Nat) : (new limit).window = .new limit := by
  simp [window, recent, new, Window.new]

/-- That older values are held until a batch of them is dropped cannot be seen: what is shown is what
would be if each value drove out the oldest one at once. -/
theorem window_push (h : History) (v : UInt8) : (h.push v).window = h.window.push v := by
  have hpos := h.limit_pos
  have hrecent : (h.push v).recent = ((v :: h.held).take h.limit).reverse := by
    rw [recent, limit_push, push]
    split
    · rfl
    · rw [List.take_take, Nat.min_self]
  have htotal : (h.push v).total = h.total + 1 := by
    unfold push
    split <;> rfl
  obtain ⟨n, hn⟩ : ∃ n, h.limit = n + 1 := ⟨h.limit - 1, by omega⟩
  -- The new value takes one place, so all but the oldest of those that were shown have theirs.
  have hkept : (if h.recent.length = h.limit then h.recent.tail else h.recent) =
      (h.held.take n).reverse := by
    rw [recent, hn, List.length_reverse, List.length_take]
    split
    · rename_i hfull
      rw [List.tail_reverse, List.dropLast_eq_take, List.length_take, hfull, List.take_take,
        Nat.add_sub_cancel, Nat.min_eq_left (Nat.le_succ n)]
    · have hroom : h.held.length ≤ n := by omega
      rw [List.take_of_length_le hroom, List.take_of_length_le (Nat.le_succ_of_le hroom)]
  rw [window, window, Window.push, hrecent, htotal, limit_push, hkept, hn, List.take_succ_cons,
    List.reverse_cons]

/-! ## All values since the beginning -/

/-- A history behind some values, oldest first. -/
def behind (limit : Nat) (values : List UInt8) : History :=
  values.foldl push (new limit)

theorem Keeps.pushAll (hk : h.Keeps values) (more : List UInt8) :
    (more.foldl History.push h).Keeps (values ++ more) := by
  induction more generalizing h values with
  | nil => simpa using hk
  | cons v more ih => simpa using ih (hk.push v)

theorem keeps_behind (limit : Nat) (values : List UInt8) : (behind limit values).Keeps values :=
  (Keeps.new limit).pushAll values

/-- What a push keeps, a history has behind any values. -/
theorem behind_keeps (P : History → Prop) (hpush : ∀ h v, P h → P (h.push v)) {limit : Nat}
    (hnew : P (new limit)) (values : List UInt8) : P (behind limit values) := by
  unfold behind
  generalize new limit = h at hnew
  induction values generalizing h with
  | nil => exact hnew
  | cons v values ih => exact ih _ (hpush h v hnew)

theorem window_behind (limit : Nat) (values : List UInt8) :
    (behind limit values).window = values.foldl Window.push (.new limit) := by
  rw [← window_new, behind]
  generalize new limit = h
  induction values generalizing h with
  | nil => rfl
  | cons v values ih => rw [List.foldl_cons, List.foldl_cons, ih, window_push]

theorem limit_behind (limit : Nat) (values : List UInt8) :
    (behind limit values).limit = max limit 1 := by
  apply behind_keeps (·.limit = max limit 1)
  · intro h v hlimit
    rw [limit_push, hlimit]
  · rfl

theorem size_push (h : History) (v : UInt8) : (h.push v).size < 2 * h.limit := by
  have hpos := h.limit_pos
  unfold push
  split
  · assumption
  · simp only [List.length_take, List.length_cons]
    omega

theorem size_behind (limit : Nat) (values : List UInt8) :
    (behind limit values).size < 2 * (behind limit values).limit := by
  apply behind_keeps fun h => h.size < 2 * h.limit
  · intro h v _
    rw [limit_push]
    exact size_push h v
  · have hpos := (new limit).limit_pos
    show 0 < _
    omega

/-- A history for so many values at most, as it is seen behind all values that were pushed. -/
structure ShowsLast (h : History) (limit : Nat) (values : List UInt8) : Prop where
  /-- The last values are shown, in the order in which they were pushed. -/
  recent : h.recent <:+ values
  count : h.recent.length = min values.length limit
  length : h.length = h.recent.length
  isEmpty : h.isEmpty = true ↔ values.length = 0
  total : h.total.toNat = values.length
  /-- The newest value is always shown. -/
  newest : h.recent.getLast? = values.getLast? ∧ h.newest? = values.getLast?
  /-- However many values there were, few are held. -/
  bounded : h.length ≤ limit ∧ h.held.length < 2 * limit

/-- Whatever is pushed to a new history, it shows the last values, as many as its limit allows but
always one, and counts all of them. -/
theorem shows_last (limit : Nat) {values : List UInt8} (hcount : values.length < UInt64.size) :
    (behind limit values).ShowsLast (max limit 1) values := by
  have hk := keeps_behind limit values
  have hlimit := limit_behind limit values
  have hrecent := hk.recent
  rw [hlimit] at hrecent
  have hlength : (behind limit values).recent.length = min values.length (max limit 1) := by
    rw [hrecent, List.length_drop]
    omega
  refine ⟨?_, hlength, length_eq _, ?_, ?_, ⟨hk.getLast?_recent, ?_⟩, ?_, ?_⟩
  · rw [hrecent]
    exact List.drop_suffix _ _
  · rw [isEmpty_eq, List.isEmpty_iff, ← List.length_eq_zero_iff, hlength]
    omega
  · rw [hk.total, UInt64.toNat_ofNat_of_lt' hcount]
  · rw [newest?_eq, hk.getLast?_recent]
  · rw [length_eq, hlength]
    exact Nat.min_le_right _ _
  · rw [← size_eq, ← hlimit]
    exact size_behind limit values

/-- One value is kept where none was to be, and batches are dropped twice on the way to the last two. -/
theorem shows_last_dropped :
    ((behind 0 [1, 2]).ShowsLast 1 [1, 2] ∧ (behind 0 [1, 2]).recent = [2]) ∧
    (behind 2 [1, 2, 3, 4, 5, 6]).ShowsLast 2 [1, 2, 3, 4, 5, 6] ∧
      (behind 2 [1, 2, 3, 4, 5, 6]).recent = [5, 6] :=
  ⟨⟨shows_last 0 (by decide), rfl⟩, shows_last 2 (by decide), rfl⟩

end BlinkBench.History

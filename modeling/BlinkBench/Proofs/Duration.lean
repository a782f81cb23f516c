import BlinkBench.Delay
/-!
# Sleeping for many rounds

A delay that sleeps takes a time for each round. All rounds together are as long as the product, or as
long as 64 bits of nanoseconds can say. `saturating_iff` says for which times of one round this holds:
for those that 64 bits can say, which all delays of manifests have, and for hardly any other.
-/
namespace BlinkBench

namespace Duration

/-! ## Nanoseconds -/

theorem toNanos_ofNanos (n : UInt64) : (ofNanos n).toNanos = n.toNat := by
  have hle : n.toNat / nanosPerSecond ≤ n.toNat := Nat.div_le_self ..
  have hlt := n.toNat_lt
  show (UInt64.ofNat (n.toNat / nanosPerSecond)).toNat * nanosPerSecond + n.toNat % nanosPerSecond = _
  rw [UInt64.toNat_ofNat_of_lt' (by rw [UInt64.size]; omega), Nat.div_add_mod']

/-- The nanoseconds of one round count modulo 2^64, and the product stops short of 2^64. -/
theorem toNanos_times (d : Duration) (n : UInt64) : (d.times n).toNanos =
    min (d.toNanos % UInt64.size * n.toNat) (UInt64.size - 1) := by
  have hsize : 0 < UInt64.size := by decide
  rw [times, toNanos_ofNanos, UInt64.toNat_ofNat_of_lt' (by omega)]

theorem toNanos_times_zero (d : Duration) : (d.times 0).toNanos = 0 := by
  rw [toNanos_times, UInt64.toNat_zero, Nat.mul_zero, Nat.zero_min]

theorem ne_zero_of_one_le {n : UInt64} (hn : 1 ≤ n) : n ≠ 0 := by
  rintro rfl
  exact absurd hn (by decide)

/-- Some rounds take as long as one of them at least. -/
theorem le_mul_rounds {n : UInt64} (hn : n ≠ 0) (nanos : Nat) : nanos ≤ nanos * n.toNat :=
  Nat.le_mul_of_pos_right _ (Nat.pos_of_ne_zero fun h => hn (UInt64.toNat_inj.1 h))

/-! ## Saturating products -/

/-- A time of one round from which the time of all rounds can be told. -/
structure Saturating (d : Duration) : Prop where
  /-- All rounds are as long as the product, or as long as 64 bits can say. -/
  product : ∀ n : UInt64, (d.times n).toNanos = min (d.toNanos * n.toNat) (UInt64.size - 1)
  /-- Fewer rounds that are no longer take no longer. -/
  mono : ∀ (e : Duration) (m n : UInt64), e.toNanos ≤ d.toNanos → m ≤ n →
    (e.times m).toNanos ≤ (d.times n).toNanos
  /-- All rounds take as long as one of them at least. -/
  not_shorter : ∀ n : UInt64, 1 ≤ n → d.toNanos ≤ (d.times n).toNanos ∨
    (d.times n).toNanos = UInt64.size - 1

variable {d : Duration}

theorem saturating_of_lt (hd : d.toNanos < UInt64.size) : d.Saturating where
  product n := by rw [toNanos_times, Nat.mod_eq_of_lt hd]
  mono e m n hed hmn := by
    have hmul := Nat.mul_le_mul hed (UInt64.le_iff_toNat_le.1 hmn)
    rw [toNanos_times, toNanos_times, Nat.mod_eq_of_lt hd, Nat.mod_eq_of_lt (Nat.lt_of_le_of_lt hed hd)]
    omega
  not_shorter n hn := by
    have hle := le_mul_rounds (ne_zero_of_one_le hn) d.toNanos
    rw [toNanos_times, Nat.mod_eq_of_lt hd]
    omega

/-- Where one round takes as long as 64 bits can say, so do all of them. -/
theorem toNanos_times_of_mod (hd : d.toNanos % UInt64.size = UInt64.size - 1) {n : UInt64}
    (hn : n ≠ 0) : (d.times n).toNanos = UInt64.size - 1 := by
  have hle := le_mul_rounds hn (UInt64.size - 1)
  rw [toNanos_times, hd]
  omega

theorem saturating_of_mod (hd : d.toNanos % UInt64.size = UInt64.size - 1) : d.Saturating where
  product n := by
    have hsize : UInt64.size - 1 ≤ d.toNanos := hd ▸ Nat.mod_le ..
    by_cases hn : n = 0
    · rw [hn, toNanos_times_zero, UInt64.toNat_zero, Nat.mul_zero, Nat.zero_min]
    · have hle := le_mul_rounds hn d.toNanos
      rw [toNanos_times_of_mod hd hn]
      omega
  mono e m n _ hmn := by
    by_cases hn : n = 0
    · obtain rfl : m = 0 := UInt64.le_zero_iff.1 (hn ▸ hmn)
      rw [toNanos_times_zero]
      exact Nat.zero_le _
    · rw [toNanos_times_of_mod hd hn, toNanos_times]
      exact Nat.min_le_right ..
  not_shorter n hn := .inr (toNanos_times_of_mod hd (ne_zero_of_one_le hn))

/-! ## Main theorem -/

/-- One nanosecond more than 64 bits can say. -/
def tooLong : Duration :=
  ⟨18446744073, 709551616, by decide⟩

/-- One round of a time that 64 bits cannot say may take no time at all. -/
theorem tooLong_vanishes : tooLong.toNanos = UInt64.size ∧ (tooLong.times 1).toNanos = 0 ∧
    (tooLong.times 1).toNanos ≠ min (tooLong.toNanos * (1 : UInt64).toNat) (UInt64.size - 1) := by
  decide

/-- All rounds take a multiple of what 64 bits say of one round, or as long as 64 bits can say. So their
time can be told where 64 bits can say that of one round, or where those bits of it are all set. Every
delay of a manifest that sleeps is of the first kind. -/
theorem saturating_iff (d : Duration) :
    (∀ n : UInt64, (d.times n).toNanos =
      min (d.toNanos % UInt64.size * n.toNat) (UInt64.size - 1)) ∧
    (d.Saturating ↔
      d.toNanos < UInt64.size ∨ d.toNanos % UInt64.size = UInt64.size - 1) ∧
    ∀ s : DelaySettings, s.strategy = .sleep → ∃ e, Delay.ofSettings s = .sleep e ∧
      e.toNanos = s.iterationNs.toNat ∧ e.Saturating := by
  refine ⟨toNanos_times d, ⟨fun h => ?_, fun h => h.elim saturating_of_lt saturating_of_mod⟩,
    fun s hs => ?_⟩
  · -- Already one round tells the two apart.
    have hone := h.product 1
    rw [toNanos_times] at hone
    have hlt : d.toNanos % UInt64.size < UInt64.size := Nat.mod_lt _ (by decide)
    have honce : (1 : UInt64).toNat = 1 := rfl
    rw [honce, Nat.mul_one, Nat.mul_one] at hone
    omega
  · have hnanos := toNanos_ofNanos s.iterationNs
    refine ⟨.ofNanos s.iterationNs, by rw [Delay.ofSettings, hs], hnanos, saturating_of_lt ?_⟩
    rw [hnanos]
    exact s.iterationNs.toNat_lt

/-- The longest round that 64 bits can say, and a manifest that asks for sleep. -/
theorem saturating_iff_longest :
    let d : Duration := ⟨18446744073, 709551615, by decide⟩
    d.Saturating ∧ (d.times 1).toNanos = d.toNanos ∧ (d.times 2).toNanos = d.toNanos ∧
      ∃ e, Delay.ofSettings { strategy := .sleep, iterationNs := 66 } = .sleep e ∧ e.Saturating := by
  refine ⟨(saturating_iff _).2.1.2 (.inl (by decide)), by decide, by decide, ?_⟩
  obtain ⟨e, he, -, hsaturating⟩ :=
    (saturating_iff tooLong).2.2 { strategy := .sleep, iterationNs := 66 } rfl
  exact ⟨e, he, hsaturating⟩

end Duration

end BlinkBench

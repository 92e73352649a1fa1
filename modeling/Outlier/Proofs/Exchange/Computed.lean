import Outlier.Proofs.Exchange.Backoff
import Outlier.Proofs.Number.Precision

/-! Waits as they are computed. Doubling rounds nothing, so that a wait is rounded where its random
share is worked out and added, and nowhere else. -/
namespace Outlier

namespace Backoff
open Binary
variable {shortest longest x : Float} {a b : Int}

/-- However it is rounded, a wait less its share is between zero and the longest one. -/
theorem steady_mem (hl : 0 ≤ longest) (n : Nat) :
    0 ≤ steady shortest longest n ∧ steady shortest longest n ≤ longest := by
  have hlongest : 0 ≤ longest ∧ longest ≤ longest := ⟨hl, float_le_refl hl⟩
  have hzero : (0 : Float) ≤ 0 ∧ 0 ≤ longest := ⟨by decide +kernel, hl⟩
  unfold steady
  dsimp only
  generalize doubled shortest (n - 1) = grown
  split
  · exact hlongest
  by_cases h : longest < grown
  · rw [if_pos h]
    split
    · exact hlongest
    · exact hzero
  · rw [if_neg h]
    split
    next hpos =>
      have hpos := float_le_of_lt hpos
      exact ⟨hpos, float_le_of_not_lt hl hpos h⟩
    · exact hzero

/-! Units of a wait that is doubled up to its bound. -/

theorem units?_doubled (hx : 0 ≤ x) (ha : units? x = some a) (ha' : a ≤ beyond) (n : Nat) :
    units? (doubled x n) = some (min (2 ^ n * a) beyond) := by
  induction n generalizing x a with
  | zero =>
    rw [doubled, pow_zero, one_mul, Int.min_eq_left ha']
    exact ha
  | succ n ih =>
    have hbeyond : (beyond : Int) ≤ 2 ^ n * beyond :=
      le_mul_of_one_le_left (Int.natCast_nonneg _) (one_le_pow₀ one_le_two)
    have hfold : min (2 ^ n * min (2 * a) beyond) (beyond : Int) =
        min (2 ^ (n + 1) * a) beyond := by
      rw [mul_min_of_nonneg _ _ (pow_nonneg zero_le_two n), min_assoc, min_eq_right hbeyond,
        ← mul_assoc, ← pow_succ]
    rw [doubled, ih (float_add_nonneg hx hx) (units?_double hx ha) (min_le_right _ _), hfold]

theorem units?_positive (ha : units? x = some a) (ha' : 0 ≤ a) :
    units? (if 0 < x then x else 0) = some a := by
  split
  · exact ha
  next h =>
    have hle : a ≤ 0 := by
      by_contra hlt
      exact h (lt_iff.mpr ⟨0, a, units?_zero, ha, Int.not_le.mp hlt⟩)
    rw [units?_zero, le_antisymm hle ha']

theorem units?_min {y : Float} (ha : units? x = some a) (hb : units? y = some b) :
    units? (if x < y then x else y) = some (min a b) := by
  split
  next h =>
    obtain ⟨c, d, hc, hd, hlt⟩ := lt_iff.mp h
    cases ha.symm.trans hc
    cases hb.symm.trans hd
    rw [ha, min_eq_left hlt.le]
  next h =>
    have hle : b ≤ a := by
      by_contra hlt
      exact h (lt_iff.mpr ⟨a, b, ha, hb, Int.not_le.mp hlt⟩)
    rw [hb, min_eq_right hle]

theorem units?_steady (hs : 0 ≤ shortest) (ha : units? shortest = some a) (ha' : a ≤ beyond)
    (hb : units? longest = some b) (hb' : 0 ≤ b) (hb'' : b ≤ beyond) {n : Nat}
    (hn : n - 1 < limit) :
    units? (steady shortest longest n) = some (min b (2 ^ (n - 1) * a)) := by
  have hpos : 0 ≤ a := not_neg_iff.mp (nonneg_iff.mp hs).1 a ha
  have hbounded := units?_min hb (units?_doubled hs ha ha' (n - 1))
  rw [← min_assoc, min_right_comm, min_eq_left hb''] at hbounded
  rw [steady, if_neg (Nat.not_le_of_gt hn)]
  exact units?_positive hbounded (le_min hb' (mul_nonneg (pow_nonneg zero_le_two _) hpos))

/-- A wait less its share is the same whether numbers are rounded or not. -/
theorem value_steady (hs : 0 ≤ shortest) (hs' : shortest.isFinite) (hl : 0 ≤ longest)
    (hl' : longest.isFinite) (n : Nat) :
    value (steady shortest longest n) = steady (value shortest) (value longest) n := by
  rcases Nat.lt_or_ge (n - 1) limit with hn | hn
  · obtain ⟨a, ha⟩ := units?_of_isFinite hs'
    obtain ⟨b, hb⟩ := units?_of_isFinite hl'
    have ha' := (isFinite_iff ha).mp hs'
    have hb' := (isFinite_iff hb).mp hl'
    have hnonneg : 0 ≤ b := not_neg_iff.mp (nonneg_iff.mp hl).1 b hb
    have hunits := units?_steady hs ha ha'.2.le hb hnonneg hb'.2.le hn
    have hmem : 0 ≤ steady shortest longest n ∧ steady shortest longest n ≤ longest :=
      steady_mem hl n
    rw [value_eq (isFinite_of_le hmem.1 hmem.2 hl') hunits,
      steady_of_lt_limit (value_nonneg hs hs') (value_nonneg hl hl') hn,
      value_eq hs' ha, value_eq hl' hb, Int.cast_min, Int.cast_mul, Int.cast_pow, Int.cast_two,
      ← mul_assoc, min_mul_of_nonneg _ _ (zpow_nonneg two_pos.le _)]
  · rw [show steady shortest longest n = longest from if_pos hn, steady_of_limit_le hn]

end Backoff

namespace Pause
open Binary
variable {p : Pause}

/-- The wait less its share, as it is computed. -/
def base (p : Pause) : Float :=
  if Backoff.isReached p.shortest p.longest p.retry then p.longest
  else Backoff.steady p.shortest p.longest p.retry

theorem seconds_eq (p : Pause) : p.seconds = p.base + p.jitter * p.shortest := by
  unfold seconds base
  split <;> rfl

theorem base_mem (hl : 0 ≤ p.longest) : 0 ≤ p.base ∧ p.base ≤ p.longest := by
  unfold base
  split
  · exact ⟨hl, float_le_refl hl⟩
  · exact Backoff.steady_mem hl p.retry

theorem seconds_of_limit (h : Backoff.limit < p.retry) :
    p.seconds = p.longest + p.jitter * p.shortest := by
  have hsteady : Backoff.steady p.shortest p.longest p.retry = p.longest :=
    if_pos (Nat.le_sub_one_of_lt h)
  rw [seconds_eq, base, hsteady, ite_self]

theorem seconds_not_neg (hs : ¬ p.shortest < 0) (hl : 0 ≤ p.longest) (hj : ¬ p.jitter < 0) :
    ¬ p.seconds < 0 := by
  rw [seconds_eq]
  exact add_not_neg (nonneg_iff.mp (base_mem hl).1).1 (mul_not_neg hj hs)

/-- Only an infinite number makes a wait that is none. -/
theorem seconds_nonneg (hs : ¬ p.shortest < 0) (hs' : p.shortest.isFinite = true)
    (hl : 0 ≤ p.longest) (hj : ¬ p.jitter < 0) (hj' : p.jitter.isFinite = true) :
    0 ≤ p.seconds := by
  rw [seconds_eq]
  exact float_add_nonneg (base_mem hl).1 (float_mul_nonneg hj hj' hs hs')

/-- The longest wait with its share decides for all. -/
theorem isFinite_seconds (hs : ¬ p.shortest < 0) (hl : 0 ≤ p.longest) (hj : ¬ p.jitter < 0)
    (h : (p.longest + p.jitter * p.shortest).isFinite) : p.seconds.isFinite := by
  obtain ⟨hbase, hle⟩ := base_mem hl
  rw [seconds_eq]
  exact isFinite_add_of_le (nonneg_iff.mp hbase).1 hle (mul_not_neg hj hs) h

theorem seconds_of_infinite (hs : p.shortest.isFinite = false) : p.seconds.isFinite = false := by
  rw [Bool.eq_false_iff] at hs ⊢
  intro h
  rw [seconds_eq] at h
  exact hs (isFinite_of_isFinite_mul (isFinite_of_isFinite_add h).2).2

/-! How far a wait is off from the one that is not rounded. -/

section
variable (hs : 0 ≤ p.shortest) (hs' : p.shortest.isFinite) (hl : 0 ≤ p.longest)
include hs hs' hl

/-- Where its logarithms are rounded a wait may reach its bound too soon, and is nowhere else
different. -/
theorem value_base (hl' : p.longest.isFinite) : value p.base =
    if Backoff.isReached p.shortest p.longest p.retry then value p.longest
    else Backoff.steady (value p.shortest) (value p.longest) p.retry := by
  unfold base
  split
  · rfl
  · exact Backoff.value_steady hs hs' hl hl' _

/-- The share is rounded, and the sum is. -/
theorem isNear_seconds (hj : 0 ≤ p.jitter) (h : p.seconds.isFinite) :
    IsNear 3 (value p.seconds) (value p.base + value p.jitter * value p.shortest) := by
  rw [seconds_eq] at h ⊢
  obtain ⟨hfinite, hshare⟩ := isFinite_of_isFinite_add h
  have hs'' := (nonneg_iff.mp hs).1
  have hj'' := (nonneg_iff.mp hj).1
  have hbase := (base_mem hl).1
  have hsum := value_add_near (nonneg_iff.mp hbase).1 (mul_not_neg hj'' hs'') h
  have hproduct := value_mul_near hj'' hs'' hshare
  have hj' := (isFinite_of_isFinite_mul hshare).1
  exact .add (value_nonneg hbase hfinite)
    (mul_nonneg (value_nonneg hj hj') (value_nonneg hs hs')) hsum hproduct

/-- A computed wait is off by no more than three places, unless by its rounded logarithms it has
grown up to its bound before it has. It is then no further off from its bound. -/
theorem seconds_near_exact (hl' : p.longest.isFinite) (hj : 0 ≤ p.jitter)
    (h : p.seconds.isFinite) :
    IsNear 3 (value p.seconds) p.exact ∨
      (Backoff.isReached p.shortest p.longest p.retry = true ∧
        Backoff.steady (value p.shortest) (value p.longest) p.retry < value p.longest ∧
        IsNear 3 (value p.seconds) (value p.longest + value p.jitter * value p.shortest)) := by
  have hnear := isNear_seconds hs hs' hl hj h
  have hbase := value_base hs hs' hl hl'
  rw [exact_eq, Backoff.wait]
  split at hbase
  next hreached =>
    rw [hbase] at hnear
    have hle := Backoff.steady_le (value_nonneg hs hs') (value_nonneg hl hl') (n := p.retry)
    rcases hle.eq_or_lt with heq | hlt
    · rw [heq]
      exact .inl hnear
    · exact .inr ⟨hreached, hlt, hnear⟩
  next => exact .inl (hbase ▸ hnear)

end

end Pause
end Outlier

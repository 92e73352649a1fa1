import Outlier.Exchange.Message
import Outlier.Proofs.Number.Double

/-! Waits between attempts in exact arithmetic: they are doubled until they have grown up to their
bound, and the random share comes on top. -/
namespace Outlier

namespace Backoff

theorem doubled_eq {R : Type} [Semiring R] (x : R) (n : Nat) : doubled x n = 2 ^ n * x := by
  induction n generalizing x with
  | zero => rw [doubled, pow_zero, one_mul]
  | succ n ih => rw [doubled, ih, pow_succ, mul_assoc, two_mul]

variable {R : Type} [CommRing R] [LinearOrder R] {shortest longest jitter : R} {m n : Nat}

theorem steady_of_limit_le (h : limit ≤ n - 1) : steady shortest longest n = longest := if_pos h

variable [IsStrictOrderedRing R] (hs : 0 ≤ shortest) (hl : 0 ≤ longest)
include hs hl

theorem steady_of_lt_limit (h : n - 1 < limit) :
    steady shortest longest n = min longest (2 ^ (n - 1) * shortest) := by
  have hgrown : 0 ≤ 2 ^ (n - 1) * shortest := mul_nonneg (pow_nonneg zero_le_two _) hs
  rw [steady, if_neg (Nat.not_le_of_gt h), doubled_eq]
  dsimp only
  rw [← min_def_lt]
  split
  · rfl
  next hzero => exact le_antisymm (le_min hl hgrown) (not_lt.mp hzero)

theorem steady_le : steady shortest longest n ≤ longest := by
  rcases Nat.lt_or_ge (n - 1) limit with h | h
  · exact (steady_of_lt_limit hs hl h).trans_le (min_le_left _ _)
  · exact (steady_of_limit_le h).le

theorem le_steady (hsl : shortest ≤ longest) : shortest ≤ steady shortest longest n := by
  rcases Nat.lt_or_ge (n - 1) limit with h | h
  · rw [steady_of_lt_limit hs hl h]
    exact le_min hsl (le_mul_of_one_le_left hs (one_le_pow₀ one_le_two))
  · exact hsl.trans_eq (steady_of_limit_le h).symm

/-- Waits only grow. -/
theorem steady_mono (h : m ≤ n) : steady shortest longest m ≤ steady shortest longest n := by
  rcases Nat.lt_or_ge (n - 1) limit with hn | hn
  · rw [steady_of_lt_limit hs hl hn, steady_of_lt_limit hs hl (by omega)]
    have hpower : (2 : R) ^ (m - 1) ≤ 2 ^ (n - 1) := pow_le_pow_right₀ one_le_two (by omega)
    exact min_le_min_left _ (mul_le_mul_of_nonneg_right hpower hs)
  · exact (steady_le hs hl).trans_eq (steady_of_limit_le hn).symm

theorem steady_eq_longest (hm : steady shortest longest m = longest) (h : m ≤ n) :
    steady shortest longest n = longest :=
  le_antisymm (steady_le hs hl) (hm.symm.trans_le (steady_mono hs hl h))

/-- A wait that does not grow any more has reached its bound. -/
theorem steady_eq_longest_of_eq (hpos : 0 < shortest) (hn : 0 < n)
    (h : steady shortest longest n = steady shortest longest (n + 1)) :
    steady shortest longest n = longest := by
  rcases Nat.lt_or_ge n limit with hlt | hge
  · have hgrown : 2 ^ (n - 1) * shortest < 2 ^ n * shortest :=
      mul_lt_mul_of_pos_right (pow_lt_pow_right₀ one_lt_two (by omega)) hpos
    rw [steady_of_lt_limit hs hl (by omega)] at h ⊢
    rw [steady_of_lt_limit hs hl (by omega), Nat.add_sub_cancel] at h
    by_contra hne
    have hlow : 2 ^ (n - 1) * shortest < longest := by
      by_contra hle
      exact hne (min_eq_left (not_lt.mp hle))
    rw [min_eq_right hlow.le] at h
    exact absurd h (lt_min hlow hgrown).ne
  · exact h.trans (steady_of_limit_le (by omega))

/-! The random share comes on top of the bound. -/

theorem wait_le (jitter : R) : wait shortest longest jitter n ≤ longest + jitter * shortest :=
  add_le_add_left (steady_le hs hl) _

theorem le_wait (hsl : shortest ≤ longest) (hj : 0 ≤ jitter) :
    shortest ≤ wait shortest longest jitter n :=
  le_add_of_le_of_nonneg (le_steady hs hl hsl) (mul_nonneg hj hs)

/-- A wait is within its bound if there is no share or room is left for it. -/
theorem wait_le_longest_iff (hj : 0 ≤ jitter) : wait shortest longest jitter n ≤ longest ↔
    jitter * shortest = 0 ∨ n - 1 < limit ∧ (2 ^ (n - 1) + jitter) * shortest ≤ longest := by
  have hshare : 0 ≤ jitter * shortest := mul_nonneg hj hs
  have hfull : longest + jitter * shortest ≤ longest ↔ jitter * shortest = 0 := by
    rw [add_le_iff_nonpos_right]
    exact ⟨fun h => le_antisymm h hshare, le_of_eq⟩
  rw [wait, add_mul]
  rcases Nat.lt_or_ge (n - 1) limit with h | h
  · rw [steady_of_lt_limit hs hl h, and_iff_right h]
    rcases le_total longest (2 ^ (n - 1) * shortest) with hgrown | hgrown
    · rw [min_eq_left hgrown, hfull]
      exact (or_iff_left_of_imp fun hle => le_antisymm (by linarith) hshare).symm
    · rw [min_eq_right hgrown]
      exact (or_iff_right_of_imp fun hzero => by linarith).symm
  · rw [steady_of_limit_le h, hfull]
    exact (or_iff_left fun hlt => Nat.not_lt_of_ge h hlt.1).symm

end Backoff

/-! The wait of a pause. -/

namespace Pause
open Binary (value)

/-- The wait before a retry if numbers are not rounded. -/
noncomputable def exact (p : Pause) : ℝ :=
  let shortest := value p.shortest
  let longest := value p.longest
  let jitter := value p.jitter
  if 0 < shortest ∧ 0 < longest ∧
      (Real.log longest - Real.log shortest) / Real.log (value 2) ≤ (p.retry - 1 : Nat) then
    longest + jitter * shortest
  else Backoff.wait shortest longest jitter p.retry

/-- By its logarithms a wait reaches its bound no sooner than it does. -/
theorem steady_of_log {shortest longest : ℝ} {n : Nat} (hs : 0 < shortest) (hl : 0 < longest)
    (h : (Real.log longest - Real.log shortest) / Real.log 2 ≤ (n - 1 : Nat)) :
    Backoff.steady shortest longest n = longest := by
  have hgrown : longest ≤ 2 ^ (n - 1) * shortest := by
    have hpower : (2 : ℝ) ^ (n - 1) ≠ 0 := pow_ne_zero _ two_ne_zero
    rw [div_le_iff₀ (Real.log_pos one_lt_two), ← Real.log_pow, sub_le_iff_le_add,
      ← Real.log_mul hpower hs.ne'] at h
    exact (Real.log_le_log_iff hl (mul_pos (pow_pos two_pos _) hs)).mp h
  rcases Nat.lt_or_ge (n - 1) Backoff.limit with hn | hn
  · rw [Backoff.steady_of_lt_limit hs.le hl.le hn, min_eq_left hgrown]
  · exact Backoff.steady_of_limit_le hn

theorem exact_eq (p : Pause) :
    p.exact = Backoff.wait (value p.shortest) (value p.longest) (value p.jitter) p.retry := by
  rw [exact, Binary.value_two]
  split
  next h => rw [Backoff.wait, steady_of_log h.1 h.2.1 h.2.2]
  · rfl

end Pause
end Outlier

import Outlier.Proofs.Number.Double

/-! Rounding to doubles, and where it leads beyond the largest one. -/
namespace Outlier.Binary
open Float.Model (Format UnpackedFloat totalExponent)
open Float.Model.UnpackedFloat

/-- All bits of a mantissa. -/
def whole (m : Nat) : ExtendedMantissa := ⟨m, false, false⟩

/-- The last of the bits that are taken off decides on rounding, and the others only a tie. -/
theorem shiftRight_whole (m k : Nat) :
    whole m >>> (k + 1) = ⟨m / 2 ^ (k + 1), m / 2 ^ k % 2 != 0, m % 2 ^ k != 0⟩ := by
  induction k with
  | zero =>
    have hone : whole m >>> 1 = ⟨m / 2, m % 2 != 0, false⟩ := rfl
    rw [Nat.zero_add, hone, Nat.pow_one, Nat.pow_zero, Nat.div_one, Nat.mod_one]
    rfl
  | succ k ih =>
    have hstep : whole m >>> (k + 2) = (whole m >>> (k + 1)).shiftRightOne := rfl
    have hsticky : (m / 2 ^ k % 2 != 0 || m % 2 ^ k != 0) = (m % 2 ^ (k + 1) != 0) := by
      have hp : 2 ^ k ≠ 0 := (Nat.two_pow_pos k).ne'
      rw [Nat.mod_pow_succ]
      rcases Nat.mod_two_eq_zero_or_one (m / 2 ^ k) with hb | hb <;>
        by_cases ht : m % 2 ^ k = 0 <;> simp [hb, ht]
    rw [hstep, ih, ExtendedMantissa.shiftRightOne, hsticky, Nat.div_div_eq_div_mul, ← Nat.pow_succ]

theorem le_roundedMantissa (q : Nat) (r s : Bool) :
    q ≤ (ExtendedMantissa.mk q r s).roundedMantissa ∧
      (ExtendedMantissa.mk q r s).roundedMantissa ≤ q + 1 := by
  cases r <;> cases s <;>
    simp only [ExtendedMantissa.roundedMantissa, ExtendedMantissa.accuracy,
      Accuracy.roundToNearestEven] <;> omega

theorem roundedMantissa_of_odd {q : Nat} (hq : q % 2 = 1) (r s : Bool) :
    (ExtendedMantissa.mk q r s).roundedMantissa = if r then q + 1 else q := by
  cases r <;> cases s <;>
    simp [ExtendedMantissa.roundedMantissa, ExtendedMantissa.accuracy,
      Accuracy.roundToNearestEven, hq]

/-- A mantissa that loses bits is rounded to one of 53 bits, unless it is at least half a place away
from all of them. -/
theorem roundedMantissa_lt_iff {m k : Nat} (hm : m < 2 * hidden * 2 ^ (k + 1)) :
    (whole m >>> (k + 1)).roundedMantissa < 2 * hidden ↔
      2 * m < (4 * hidden - 1) * 2 ^ (k + 1) := by
  rw [shiftRight_whole]
  have hsplit : m = 2 ^ (k + 1) * (m / 2 ^ (k + 1)) + m % 2 ^ (k + 1) := (Nat.div_add_mod m _).symm
  have hq : m / 2 ^ (k + 1) < 2 * hidden := Nat.div_lt_of_lt_mul (by rwa [Nat.mul_comm] at hm)
  have ht : m % 2 ^ k < 2 ^ k := Nat.mod_lt _ (Nat.two_pow_pos k)
  have hb : m / 2 ^ k % 2 < 2 := Nat.mod_lt _ two_pos
  rw [Nat.mod_pow_succ] at hsplit
  rw [Nat.pow_succ] at hsplit hq ⊢
  clear hm
  generalize m / (2 ^ k * 2) = q at *
  generalize m % 2 ^ k = t at *
  generalize m / 2 ^ k % 2 = b at *
  generalize 2 ^ k = p at *
  have hbounds := le_roundedMantissa q (b != 0) (t != 0)
  have hhidden : hidden = 0x10000000000000 := rfl
  have hproduct : p * 2 * q = 2 * (p * q) := by ring
  have hright : (4 * hidden - 1) * (p * 2) = 0x3FFFFFFFFFFFFF * (p * 2) := rfl
  rw [hright]
  -- Only the last mantissa can gain a bit. It is odd, so that it is rounded up from the middle on.
  by_cases hlast : q = 2 * hidden - 1
  · have hpq : p * q = p * 0x1FFFFFFFFFFFFF := by rw [hlast, hhidden]
    rw [roundedMantissa_of_odd (by omega)]
    obtain rfl | rfl : b = 0 ∨ b = 1 := by omega
    · exact iff_of_true hq (by omega)
    · exact iff_of_false (Nat.not_lt_of_le (by rw [hlast]; rfl)) (by omega)
  · have hpq : p * q ≤ p * 0x1FFFFFFFFFFFFE := Nat.mul_le_mul_left p (by omega)
    have hpb : p * b ≤ p * 1 := Nat.mul_le_mul_left p (by omega)
    exact iff_of_true (by omega) (by omega)

theorem target_eq (t : Int) : Format.binary64.targetExponent t = max (t - 53) least := rfl

variable {m k : Nat} {e : Int} {s : Sign}

theorem shift_of_le (h : Format.binary64.targetExponent (totalExponent m e) ≤ e) :
    shiftToTargetExponent .binary64 m e .exact = (whole m, e) := by
  have hshift : (Format.binary64.targetExponent (totalExponent m e) - e).toNat = 0 := by omega
  rw [shiftToTargetExponent, shiftToExponent, hshift]
  exact Prod.ext rfl (Int.add_zero e)

theorem shift_of_log2 (h : m.log2 = k + 53) (he : least ≤ e) :
    shiftToTargetExponent .binary64 m e .exact = (whole m >>> (k + 1), e + (k + 1 : Nat)) := by
  have hshift : (Format.binary64.targetExponent (totalExponent m e) - e).toNat = k + 1 := by
    rw [target_eq, totalExponent, h]
    omega
  rw [shiftToTargetExponent, shiftToExponent, hshift]
  rfl

theorem shiftLeft_pos (hm : 0 < m) (j : Nat) : 0 < m <<< j := by
  rw [Nat.shiftLeft_eq]
  exact Nat.mul_pos hm (Nat.two_pow_pos j)

theorem log2_shiftLeft (hm : 0 < m) (j : Nat) : (m <<< j).log2 = m.log2 + j := by
  induction j with
  | zero => rfl
  | succ j ih =>
    rw [Nat.shiftLeft_succ, Nat.log2_two_mul (shiftLeft_pos hm j).ne', ih]
    rfl

/-- Bits are taken off, and once more where that rounds up to one bit too many. -/
theorem roundWithAccuracy_eq {d : Int} {em em' : ExtendedMantissa}
    (h : shiftToTargetExponent .binary64 m e .exact = (em, d))
    {d' : Int} (h' : shiftToTargetExponent .binary64 em.roundedMantissa d .exact = (em', d'))
    (hm : 0 < em'.mantissa) :
    roundWithAccuracy .binary64 s m e .exact = .finite s em'.mantissa d' hm := by
  simp only [roundWithAccuracy, h, h']
  exact dif_neg hm.ne'

/-- A mantissa that has room keeps its bits. -/
theorem round_of_log2_le (hm : 0 < m) (h : m.log2 ≤ 52) (he : least ≤ e) :
    ∃ n d h, UnpackedFloat.round .binary64 s m e = .finite s n d h ∧ d ≤ e := by
  have htarget : Format.binary64.targetExponent (totalExponent m e) ≤ e := by
    rw [target_eq, totalExponent]
    omega
  rw [UnpackedFloat.round, decreaseExponent]
  dsimp only
  generalize hj : (e - Format.binary64.targetExponent (totalExponent m e)).toNat = j
  have hpos := shiftLeft_pos hm j
  have hfits : Format.binary64.targetExponent (totalExponent (m <<< j) (e - j)) ≤ e - j := by
    rw [totalExponent, log2_shiftLeft hm]
    rw [target_eq, totalExponent] at *
    omega
  rw [roundWithAccuracy_eq (shift_of_le hfits) (shift_of_le hfits) hpos]
  exact ⟨_, _, hpos, rfl, by omega⟩

/-- A mantissa that is too long raises the exponent, once more where it is rounded up to the next
power of two. -/
theorem round_of_log2 (h : m.log2 = k + 53) (he : least ≤ e) :
    ∃ n d h, UnpackedFloat.round .binary64 s m e = .finite s n d h ∧
      d = e + (k + 1 : Nat) +
        if (whole m >>> (k + 1)).roundedMantissa < 2 * hidden then 0 else 1 := by
  have hne : m ≠ 0 := by
    rintro rfl
    rw [Nat.log2_zero] at h
    omega
  obtain ⟨hle, hlt⟩ := (Nat.log2_eq_iff hne).mp h
  have hp : 0 < 2 ^ (k + 1) := Nat.two_pow_pos _
  have hlow : hidden * 2 ^ (k + 1) = 2 ^ (k + 53) := by
    rw [show k + 53 = 52 + (k + 1) by omega]
    exact (Nat.pow_add 2 52 (k + 1)).symm
  have hquotient : hidden ≤ m / 2 ^ (k + 1) := (Nat.le_div_iff_mul_le hp).mpr (by omega)
  have hquotient' : m / 2 ^ (k + 1) < 2 * hidden := by
    rw [Nat.div_lt_iff_lt_mul hp, Nat.mul_assoc]
    omega
  have hr := le_roundedMantissa (m / 2 ^ (k + 1)) (m / 2 ^ k % 2 != 0) (m % 2 ^ k != 0)
  rw [← shiftRight_whole] at hr
  have hshift : (e - Format.binary64.targetExponent (totalExponent m e)).toNat = 0 := by
    rw [target_eq, totalExponent, h]
    omega
  rw [UnpackedFloat.round, decreaseExponent]
  dsimp only
  rw [hshift, Nat.shiftLeft_zero, Int.natCast_zero, Int.sub_zero]
  have hlow : hidden ≤ (whole m >>> (k + 1)).roundedMantissa := hquotient.trans hr.1
  have hpos : 0 < (whole m >>> (k + 1)).roundedMantissa := Nat.lt_of_lt_of_le (by decide) hlow
  by_cases hlt : (whole m >>> (k + 1)).roundedMantissa < 2 * hidden
  · have hlog : (whole m >>> (k + 1)).roundedMantissa.log2 = 52 :=
      (Nat.log2_eq_iff hpos.ne').mpr ⟨hlow, hlt⟩
    have hfits := shift_of_le (m := (whole m >>> (k + 1)).roundedMantissa) (e := e + (k + 1 : Nat))
      (by rw [target_eq, totalExponent, hlog]; omega)
    rw [if_pos hlt, roundWithAccuracy_eq (shift_of_log2 h he) hfits hpos]
    exact ⟨_, _, _, rfl, by omega⟩
  · have hr : (whole m >>> (k + 1)).roundedMantissa = 2 * hidden := by omega
    have hlog : (2 * hidden).log2 = 0 + 53 := by decide
    have hagain := shift_of_log2 (e := e + (k + 1 : Nat)) hlog (by omega)
    rw [← hr] at hagain
    rw [if_neg hlt, roundWithAccuracy_eq (shift_of_log2 h he) hagain (by rw [hr]; decide)]
    exact ⟨_, _, _, rfl, by omega⟩

/-- Half a place more than the largest double: what comes up to this is rounded to infinity. -/
def overflow : Nat := magnitude (4 * hidden - 1) (limit - 2)

theorem overflow_lt_beyond : overflow < beyond := by
  have hlimit : limit - 1 = limit - 2 + 1 := rfl
  rw [beyond, hlimit, magnitude_succ _ (by decide)]
  exact magnitude_lt_iff.mpr (by decide)

theorem magnitude_lt_overflow (hm : m < 2 * hidden) (he : e < limit) :
    magnitude m e < overflow := by
  have hlimit : limit - 1 = limit - 2 + 1 := rfl
  calc magnitude m e
    _ ≤ magnitude (2 * hidden - 1) e := magnitude_le (by omega) e
    _ ≤ magnitude (2 * hidden - 1) (limit - 1) := magnitude_le_exponent _ (by omega)
    _ = magnitude (2 * (2 * hidden - 1)) (limit - 2) := by rw [hlimit, magnitude_succ _ (by decide)]
    _ < overflow := magnitude_lt_iff.mpr (by decide)

/-- A mantissa that is too long by its last bits reaches the place above the largest double by its
exponent, and comes up to half of it by its bits. -/
theorem magnitude_lt_overflow_iff (hlow : hidden * 2 ^ (k + 1) ≤ m)
    (hhigh : m < 2 * hidden * 2 ^ (k + 1)) (he : least ≤ e) :
    magnitude m e < overflow ↔ e + (k + 1 : Nat) < limit - 1 ∨
      e + (k + 1 : Nat) = limit - 1 ∧ 2 * m < (4 * hidden - 1) * 2 ^ (k + 1) := by
  have hlimit : limit - 1 = limit - 2 + 1 := rfl
  have hhidden : 0 < hidden := by decide
  have hleast : least ≤ limit - 2 := by decide
  have hshift (n : Nat) : magnitude n (e + (k + 1 : Nat)) = magnitude (n * 2 ^ (k + 1)) e :=
    magnitude_shift n he (k + 1)
  rcases lt_trichotomy (e + (k + 1 : Nat)) (limit - 1) with h | h | h
  · refine iff_of_true ?_ (.inl h)
    calc magnitude m e
      _ < magnitude (2 * hidden * 2 ^ (k + 1)) e := magnitude_lt_iff.mpr hhigh
      _ = magnitude (2 * hidden) (e + (k + 1 : Nat)) := (hshift _).symm
      _ ≤ magnitude (2 * hidden) (limit - 2) := magnitude_le_exponent _ (by omega)
      _ ≤ overflow := magnitude_le (by omega) _
  · have hdouble : 2 * overflow = magnitude ((4 * hidden - 1) * 2 ^ (k + 1)) e := by
      rw [overflow, ← magnitude_two_mul, ← magnitude_succ _ hleast, ← hlimit, ← h, hshift]
    have hbelow : 2 * magnitude m e < 2 * overflow ↔ 2 * m < (4 * hidden - 1) * 2 ^ (k + 1) := by
      rw [hdouble, ← magnitude_two_mul, magnitude_lt_iff]
    omega
  · refine iff_of_false (Nat.not_lt_of_le ?_) (by omega)
    have hnext : e + (k + 1 : Nat) = e + k + 1 := by omega
    calc overflow
      _ ≤ magnitude (2 * (2 * hidden)) (limit - 2) := magnitude_le (by omega) _
      _ = magnitude (2 * hidden) (limit - 1) := by rw [hlimit, magnitude_succ _ hleast]
      _ ≤ magnitude (2 * hidden) (e + k) := magnitude_le_exponent _ (by omega)
      _ = magnitude hidden (e + (k + 1 : Nat)) := by rw [hnext, magnitude_succ _ (by omega)]
      _ = magnitude (hidden * 2 ^ (k + 1)) e := hshift _
      _ ≤ magnitude m e := magnitude_le hlow e

/-- A number is rounded to a double if it is less than half a place above the largest one. -/
theorem round_limit (hm : 0 < m) (he : least ≤ e) (he' : e < limit) :
    ∃ n d h, UnpackedFloat.round .binary64 s m e = .finite s n d h ∧
      (d < limit ↔ magnitude m e < overflow) := by
  by_cases hlog : m.log2 ≤ 52
  · obtain ⟨n, d, h, hround, hd⟩ := round_of_log2_le (s := s) hm hlog he
    have hlt : m < 2 * hidden := (Nat.log2_lt hm.ne').mp (Nat.lt_succ_of_le hlog)
    refine ⟨n, d, h, hround, iff_of_true (by omega) ?_⟩
    exact magnitude_lt_overflow hlt he'
  · obtain ⟨k, hk⟩ : ∃ k, m.log2 = k + 53 := ⟨m.log2 - 53, by omega⟩
    obtain ⟨n, d, h, hround, hd⟩ := round_of_log2 (s := s) hk he
    obtain ⟨hlow, hhigh⟩ := (Nat.log2_eq_iff hm.ne').mp hk
    have hpower (j : Nat) : 2 ^ j * 2 ^ (k + 1) = 2 ^ (k + (j + 1)) := by
      rw [← Nat.pow_add]
      congr 1
      omega
    have hlow : hidden * 2 ^ (k + 1) ≤ m := (hpower 52).trans_le hlow
    have hhigh : m < 2 * hidden * 2 ^ (k + 1) := hhigh.trans_eq (hpower 53).symm
    have hrounded := roundedMantissa_lt_iff hhigh
    refine ⟨n, d, h, hround, ?_⟩
    rw [magnitude_lt_overflow_iff hlow hhigh he, ← hrounded]
    split at hd <;> omega

end Outlier.Binary

import Outlier.Proofs.Number.Doubling

/-! How far off a sum or a product of doubles is. The bound is one whole place, twice what rounding
to the nearest comes to. -/
namespace Outlier.Binary
open Float.Model (Format UnpackedFloat totalExponent)
open Float.Model.UnpackedFloat
variable {m k : Nat} {d e : Int}

/-- What packing leaves of a finite number that has all of its bits. -/
theorem amount_packed {h : 0 < m} (hlt : m < 2 * hidden) (hle : least ≤ e)
    (hnormal : hidden ≤ m ∨ e = least)
    (hfinite : (packed (.finite .positive m e h)).isFinite = true) :
    amount (packed (.finite .positive m e h)) = m * 2 ^ e := by
  have hlimit := isFinite_packed_finite.mp hfinite
  rw [packed_of_isStandard ⟨hlt, hle, hlimit, hnormal⟩]
  simp [amount, Sign.apply]

/-- The mantissa that `k` bits are taken off. -/
def cut (m k : Nat) : Nat := (whole m >>> k).roundedMantissa

theorem le_cut (m k : Nat) : m / 2 ^ k ≤ cut m k ∧ cut m k ≤ m / 2 ^ k + 1 := by
  cases k with
  | zero =>
    have h : cut m 0 = m := rfl
    rw [h, Nat.pow_zero, Nat.div_one]
    exact ⟨Nat.le_refl m, Nat.le_succ m⟩
  | succ k =>
    rw [cut, shiftRight_whole]
    exact le_roundedMantissa _ _ _

theorem cut_near (m k : Nat) : |(cut m k : ℝ) * 2 ^ k - m| ≤ 2 ^ k := by
  obtain ⟨hlow, hhigh⟩ := le_cut m k
  have hdiv := Nat.div_add_mod m (2 ^ k)
  have hmod := Nat.mod_lt m (Nat.two_pow_pos k)
  have hlow' : 2 ^ k * (m / 2 ^ k) ≤ 2 ^ k * cut m k := Nat.mul_le_mul_left _ hlow
  have hhigh' : 2 ^ k * cut m k ≤ 2 ^ k * (m / 2 ^ k) + 2 ^ k := Nat.mul_le_mul_left _ hhigh
  have habove : cut m k * 2 ^ k ≤ m + 2 ^ k := by
    rw [Nat.mul_comm]
    omega
  have hbelow : m ≤ cut m k * 2 ^ k + 2 ^ k := by
    rw [Nat.mul_comm]
    omega
  have habove : (cut m k : ℝ) * 2 ^ k ≤ m + 2 ^ k := by exact_mod_cast habove
  have hbelow : (m : ℝ) ≤ cut m k * 2 ^ k + 2 ^ k := by exact_mod_cast hbelow
  rw [abs_le]
  constructor <;> linarith

theorem shift_cut (h : Format.binary64.targetExponent (totalExponent m e) = e + k) :
    shiftToTargetExponent .binary64 m e .exact = (whole m >>> k, e + k) := by
  have hshift : (e + k - e).toNat = k := by omega
  rw [shiftToTargetExponent, shiftToExponent, h, hshift]
  rfl

/-- What is left has at most one bit too many, and none too few but for a small number. -/
theorem cut_mem (hm : 0 < m) (h : Format.binary64.targetExponent (totalExponent m e) = e + k) :
    cut m k ≤ 2 * hidden ∧ least ≤ e + k ∧ (hidden ≤ cut m k ∨ e + k = least) := by
  rw [target_eq, totalExponent] at h
  obtain ⟨hlow, hhigh⟩ := le_cut m k
  obtain ⟨hle, hlt⟩ := (Nat.log2_eq_iff hm.ne').mp rfl
  have hp : 0 < 2 ^ k := Nat.two_pow_pos k
  have hpower (j : Nat) : 2 ^ j * 2 ^ k = 2 ^ (j + k) := (Nat.pow_add 2 j k).symm
  have hquotient : m / 2 ^ k < 2 * hidden := by
    rw [Nat.div_lt_iff_lt_mul hp]
    calc m
      _ < 2 ^ (m.log2 + 1) := hlt
      _ ≤ 2 ^ (53 + k) := Nat.pow_le_pow_right two_pos (by omega)
      _ = 2 * hidden * 2 ^ k := (hpower 53).symm
  refine ⟨by omega, by omega, ?_⟩
  by_cases hsmall : e + k = least
  · exact .inr hsmall
  · refine .inl (Nat.le_trans ?_ hlow)
    rw [Nat.le_div_iff_mul_le hp]
    calc hidden * 2 ^ k
      _ = 2 ^ (52 + k) := hpower 52
      _ = 2 ^ m.log2 := by rw [show 52 + k = m.log2 by omega]
      _ ≤ m := hle

/-- A mantissa that rounding carries out of its bits is a power of two, one place up. -/
theorem amount_carried (h : Format.binary64.targetExponent (totalExponent m e) = e + k)
    (htwice : cut m k = 2 * hidden) (hleast : least ≤ e + k)
    (hfinite : (packed (roundWithAccuracy .binary64 .positive m e .exact)).isFinite = true) :
    amount (packed (roundWithAccuracy .binary64 .positive m e .exact)) =
      cut m k * 2 ^ (e + k) := by
  have hlog : (2 * hidden).log2 = 0 + 53 := by decide
  have hagain : shiftToTargetExponent .binary64 (cut m k) (e + k) .exact =
      (whole hidden, e + k + 1) := by
    rw [htwice, shift_of_log2 hlog hleast]
    rfl
  have hround : roundWithAccuracy .binary64 .positive m e .exact =
      .finite .positive hidden (e + k + 1) (by decide) :=
    roundWithAccuracy_eq (shift_cut h) hagain (by decide)
  rw [hround] at hfinite ⊢
  rw [amount_packed (by decide) (by omega) (.inl (Nat.le_refl hidden)) hfinite, htwice,
    zpow_add_one₀ two_ne_zero]
  push_cast
  ring

/-- Rounding keeps the bits that there is room for, the last of them rounded. -/
theorem amount_rounded (hm : 0 < m)
    (h : Format.binary64.targetExponent (totalExponent m e) = e + k)
    (hfinite : (packed (roundWithAccuracy .binary64 .positive m e .exact)).isFinite = true) :
    amount (packed (roundWithAccuracy .binary64 .positive m e .exact)) =
      cut m k * 2 ^ (e + k) := by
  obtain ⟨hle, hleast, hnormal⟩ := cut_mem hm h
  have hfirst := shift_cut h
  have hcut : (whole m >>> k).roundedMantissa = cut m k := rfl
  have hfits (hlt : cut m k < 2 * hidden) :
      Format.binary64.targetExponent (totalExponent (cut m k) (e + k)) ≤ e + k := by
    have hlog : (cut m k).log2 ≤ 52 := by
      by_cases hzero : cut m k = 0
      · rw [hzero]
        decide
      · exact Nat.lt_succ_iff.mp ((Nat.log2_lt hzero).mpr hlt)
    rw [target_eq, totalExponent]
    omega
  rcases Nat.eq_zero_or_pos (cut m k) with hzero | hpos
  · have hagain := shift_of_le (hfits (by rw [hzero]; decide))
    have hround : roundWithAccuracy .binary64 .positive m e .exact = .zero .positive := by
      simp only [roundWithAccuracy, hfirst, hcut, hagain]
      exact dif_pos hzero
    rw [hround, packed_zero, hzero, Nat.cast_zero, zero_mul]
    rfl
  · by_cases hlt : cut m k < 2 * hidden
    · have hround := roundWithAccuracy_eq (s := .positive) hfirst (shift_of_le (hfits hlt)) hpos
      rw [hround] at hfinite ⊢
      exact amount_packed hlt hleast hnormal hfinite
    · exact amount_carried h (by omega) hleast hfinite

theorem isNear_rounded (hm : 0 < m) (h : e ≤ Format.binary64.targetExponent (totalExponent m e))
    (hfinite : (packed (roundWithAccuracy .binary64 .positive m e .exact)).isFinite = true) :
    IsNear 1 (amount (packed (roundWithAccuracy .binary64 .positive m e .exact))) (m * 2 ^ e) := by
  obtain ⟨k, hk⟩ : ∃ k : Nat, Format.binary64.targetExponent (totalExponent m e) = e + k :=
    ⟨(Format.binary64.targetExponent (totalExponent m e) - e).toNat, by omega⟩
  have hplace : (2 : ℝ) ^ (e + k) ≤ 2 ^ (-52 : Int) * (m * 2 ^ e) + 2 ^ least := by
    have hle : (2 : ℝ) ^ m.log2 ≤ m := by exact_mod_cast Nat.log2_self_le hm.ne'
    rw [target_eq, totalExponent] at hk
    rcases le_total (m.log2 + e + 1 - 53) least with hsmall | hlarge
    · rw [show e + k = least by omega]
      exact le_add_of_nonneg_left (by positivity)
    · calc (2 : ℝ) ^ (e + k)
        _ = 2 ^ (-52 + m.log2 + e : Int) := by rw [show e + k = -52 + m.log2 + e by omega]
        _ = 2 ^ (-52 : Int) * (2 ^ m.log2 * 2 ^ e) := by
          rw [zpow_add₀ two_ne_zero, zpow_add₀ two_ne_zero, zpow_natCast, mul_assoc]
        _ ≤ 2 ^ (-52 : Int) * (m * 2 ^ e) := by gcongr
        _ ≤ _ := le_add_of_nonneg_right (by positivity)
  have hsplit : (cut m k : ℝ) * 2 ^ (e + k) - m * 2 ^ e = (cut m k * 2 ^ k - m) * 2 ^ e := by
    rw [zpow_add₀ two_ne_zero, zpow_natCast]
    ring
  rw [IsNear, amount_rounded hm hk hfinite, Nat.cast_one, one_mul]
  calc |(cut m k : ℝ) * 2 ^ (e + k) - m * 2 ^ e|
    _ = |(cut m k : ℝ) * 2 ^ k - m| * 2 ^ e := by
      rw [hsplit, abs_mul, abs_of_pos (zpow_pos (two_pos : (0 : ℝ) < 2) e)]
    _ ≤ 2 ^ k * 2 ^ e := by
      gcongr
      exact cut_near m k
    _ = 2 ^ (e + k) := by rw [zpow_add₀ two_ne_zero, zpow_natCast, mul_comm]
    _ ≤ _ := hplace

theorem isNear_refl {x : ℝ} (hx : 0 ≤ x) : IsNear 1 x x := by
  rw [IsNear, sub_self, abs_zero]
  positivity

theorem isNear_zero (s : Sign) : IsNear 1 (amount (packed (.zero s))) 0 := by
  rw [packed_zero]
  exact isNear_refl le_rfl

variable {u v : UnpackedFloat}

theorem amount_packed_self (hu : IsUnsigned u) (hc : IsCanonical u) :
    amount (packed u) = amount u := by
  cases u with
  | notANumber => rw [packed_notANumber]
  | infinity s => rw [packed_infinity]
  | zero s => rw [packed_zero]
  | finite s m e h => rw [packed_of_isStandard (hc _ _ _ _ rfl)]

theorem amount_nonneg (hu : IsUnsigned u) : 0 ≤ amount u := by
  cases u with
  | finite s m e h =>
    obtain rfl : s = .positive := hu
    simp only [amount, Sign.apply]
    positivity
  | _ => exact le_rfl

/-- The product of two mantissas has bits enough, or there are no more places for it. -/
theorem le_target_mul {n : Nat} (hm : 0 < m) (hn : 0 < n) (hd : IsStandard m d)
    (he : IsStandard n e) :
    d + e ≤ Format.binary64.targetExponent (totalExponent (m * n) (d + e)) := by
  have hlong (h : hidden ≤ m * n) : 52 ≤ (m * n).log2 :=
    (Nat.le_log2 (Nat.mul_pos hm hn).ne').mpr h
  have hleast : least = -1074 := rfl
  rw [target_eq, totalExponent]
  rcases hd.isNormal with hlow | rfl
  · have := hlong (Nat.le_trans hlow (Nat.le_mul_of_pos_right m hn))
    omega
  · rcases he.isNormal with hlow | rfl
    · have := hlong (Nat.le_trans hlow (Nat.le_mul_of_pos_left n hm))
      omega
    · omega

theorem shiftLeft_mul_zpow (m : Nat) (h : d ≤ e) :
    ((m <<< (e - d).toNat : Nat) : ℝ) * 2 ^ d = m * 2 ^ e := by
  obtain ⟨j, rfl⟩ : ∃ j : Nat, e = d + j := ⟨(e - d).toNat, by omega⟩
  have hj : (d + j - d).toNat = j := by omega
  rw [hj, Nat.shiftLeft_eq, zpow_add₀ two_ne_zero, zpow_natCast]
  push_cast
  ring

theorem isNear_round (hm : 0 < m)
    (hfinite : (packed (UnpackedFloat.round .binary64 .positive m e)).isFinite = true) :
    IsNear 1 (amount (packed (UnpackedFloat.round .binary64 .positive m e))) (m * 2 ^ e) := by
  rw [UnpackedFloat.round, decreaseExponent] at hfinite ⊢
  dsimp only at hfinite ⊢
  generalize hj : (e - Format.binary64.targetExponent (totalExponent m e)).toNat = j at hfinite ⊢
  have hfits : e - j ≤ Format.binary64.targetExponent (totalExponent (m <<< j) (e - j)) := by
    rw [totalExponent, log2_shiftLeft hm]
    rw [target_eq, totalExponent] at *
    omega
  have hsame := shiftLeft_mul_zpow m (show e - j ≤ e by omega)
  rw [show (e - (e - j)).toNat = j by omega] at hsame
  rw [← hsame]
  exact isNear_rounded (shiftLeft_pos hm j) hfits hfinite

/-- The sum of numbers that are not negative. -/
theorem isNear_add (hu : IsUnsigned u) (hu' : IsCanonical u) (hv : IsUnsigned v)
    (hv' : IsCanonical v) (h : (packed (add .binary64 u v)).isFinite = true) :
    IsNear 1 (amount (packed (add .binary64 u v))) (amount u + amount v) := by
  have hfinite := isFinite_of_add (isFinite_of_packed h)
  have hsame {w : UnpackedFloat} (hw : IsUnsigned w) (hc : IsCanonical w) :
      IsNear 1 (amount (packed w)) (amount w) := by
    rw [amount_packed_self hw hc]
    exact isNear_refl (amount_nonneg hw)
  have hzero (s : Sign) : amount (.zero s) = 0 := rfl
  cases u with
  | notANumber => exact absurd hfinite.1 Bool.false_ne_true
  | infinity s => exact absurd hfinite.1 Bool.false_ne_true
  | zero s =>
    rw [hzero, zero_add]
    cases v with
    | notANumber => exact absurd hfinite.2 Bool.false_ne_true
    | infinity t => exact absurd hfinite.2 Bool.false_ne_true
    | zero t => cases s <;> cases t <;> exact isNear_zero _
    | finite t n e hn => exact hsame hv hv'
  | finite s m d hm =>
    obtain rfl : s = .positive := hu
    cases v with
    | notANumber => exact absurd hfinite.2 Bool.false_ne_true
    | infinity t => exact absurd hfinite.2 Bool.false_ne_true
    | zero t =>
      rw [hzero, add_zero]
      exact hsame rfl hu'
    | finite t n e hn =>
      obtain rfl : t = .positive := hv
      have hpos := shiftLeft_pos hm (d - min d e).toNat
      have hsum : amount (.finite .positive m d hm) + amount (.finite .positive n e hn) =
          ((m <<< (d - min d e).toNat + n <<< (e - min d e).toNat : Nat) : ℝ) * 2 ^ min d e := by
        rw [Nat.cast_add, add_mul, shiftLeft_mul_zpow m (min_le_left d e),
          shiftLeft_mul_zpow n (min_le_right d e)]
        simp [amount, Sign.apply]
      rw [add_finite] at h ⊢
      rw [hsum]
      exact isNear_round (Nat.add_pos_left hpos _) h

/-- The product of numbers that are not negative. -/
theorem isNear_mul (hu : IsUnsigned u) (hu' : IsCanonical u) (hv : IsUnsigned v)
    (hv' : IsCanonical v) (h : (packed (mul .binary64 u v)).isFinite = true) :
    IsNear 1 (amount (packed (mul .binary64 u v))) (amount u * amount v) := by
  have hfinite := isFinite_of_mul (isFinite_of_packed h)
  have hzero (s : Sign) : amount (.zero s) = 0 := rfl
  cases u with
  | notANumber => exact absurd hfinite.1 Bool.false_ne_true
  | infinity s => exact absurd hfinite.1 Bool.false_ne_true
  | zero s =>
    rw [hzero, zero_mul]
    cases v with
    | notANumber => exact absurd hfinite.2 Bool.false_ne_true
    | infinity t => exact absurd hfinite.2 Bool.false_ne_true
    | zero t => exact isNear_zero _
    | finite t n e hn => exact isNear_zero _
  | finite s m d hm =>
    obtain rfl : s = .positive := hu
    cases v with
    | notANumber => exact absurd hfinite.2 Bool.false_ne_true
    | infinity t => exact absurd hfinite.2 Bool.false_ne_true
    | zero t =>
      rw [hzero, mul_zero]
      exact isNear_zero _
    | finite t n e hn =>
      obtain rfl : t = .positive := hv
      have hproduct : mul .binary64 (.finite .positive m d hm) (.finite .positive n e hn) =
          roundWithAccuracy .binary64 .positive (m * n) (d + e) .exact := rfl
      have hamount : amount (.finite .positive m d hm) * amount (.finite .positive n e hn) =
          ((m * n : Nat) : ℝ) * 2 ^ (d + e) := by
        rw [zpow_add₀ two_ne_zero]
        simp only [amount, Sign.apply, Int.cast_natCast, Nat.cast_mul]
        ring
      rw [hproduct] at h ⊢
      rw [hamount]
      have hfits := le_target_mul hm hn (hu' _ _ _ _ rfl) (hv' _ _ _ _ rfl)
      exact isNear_rounded (Nat.mul_pos hm hn) hfits h

/-- A sum is rounded, one part of which is rounded itself. -/
theorem IsNear.add {x y z v : ℝ} (hx : 0 ≤ x) (hy : 0 ≤ y) (hv : IsNear 1 v (x + z))
    (hz : IsNear 1 z y) : IsNear 3 v (x + y) := by
  have hplace : (2 : ℝ) ^ (-52 : Int) ≤ 1 := by norm_num
  have hplace' : (0 : ℝ) < 2 ^ (-52 : Int) := zpow_pos two_pos _
  have hleast : (0 : ℝ) < 2 ^ least := zpow_pos two_pos _
  rw [IsNear, Nat.cast_one, one_mul] at hv hz
  rw [IsNear, Nat.cast_ofNat]
  generalize (2 : ℝ) ^ (-52 : Int) = place at *
  generalize (2 : ℝ) ^ least = smallest at *
  have htriangle : |v - (x + y)| ≤ |v - (x + z)| + |z - y| := by
    calc |v - (x + y)|
      _ = |(v - (x + z)) + (z - y)| := by congr 1; ring
      _ ≤ |v - (x + z)| + |z - y| := abs_add_le _ _
  have hz' : z ≤ y + (place * y + smallest) := by linarith [le_abs_self (z - y)]
  have hgrown : place * (x + z) ≤ place * x + place * y + place * y + smallest := by
    have hscaled : place * z ≤ place * (y + (place * y + smallest)) :=
      mul_le_mul_of_nonneg_left hz' hplace'.le
    have hsquare : place * (place * y) ≤ place * y :=
      mul_le_of_le_one_left (mul_nonneg hplace'.le hy) hplace
    have hsmall : place * smallest ≤ smallest := mul_le_of_le_one_left hleast.le hplace
    linarith
  have hx' : 0 ≤ place * x := mul_nonneg hplace'.le hx
  linarith

/-! The same of doubles as the program has them. -/

variable {x y : Float}

theorem value_add_near (hx : ¬ x < 0) (hy : ¬ y < 0) (h : (x + y).isFinite = true) :
    IsNear 1 (value (x + y)) (value x + value y) := by
  simp only [value_eq_amount, unpack_add]
  exact isNear_add (isUnsigned_unpack_iff.mpr hx) (isCanonical_unpack x)
    (isUnsigned_unpack_iff.mpr hy) (isCanonical_unpack y) h

theorem value_mul_near (hx : ¬ x < 0) (hy : ¬ y < 0) (h : (x * y).isFinite = true) :
    IsNear 1 (value (x * y)) (value x * value y) := by
  simp only [value_eq_amount, unpack_mul]
  exact isNear_mul (isUnsigned_unpack_iff.mpr hx) (isCanonical_unpack x)
    (isUnsigned_unpack_iff.mpr hy) (isCanonical_unpack y) h

end Outlier.Binary

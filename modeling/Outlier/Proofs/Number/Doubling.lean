import Outlier.Proofs.Number.Sum

/-! Doubles that are doubled. Nothing is rounded on the way up to infinity. -/
namespace Outlier.Binary
open Float.Model (Format UnpackedFloat totalExponent)
open Float.Model.UnpackedFloat
variable {m : Nat} {e : Int} {s : Sign}

theorem bitVec_ofNat_ne {n k w : Nat} (hn : n < 2 ^ w) (hk : k < 2 ^ w) (h : n ≠ k) :
    BitVec.ofNat w n ≠ BitVec.ofNat w k := by
  intro heq
  have htoNat := congrArg BitVec.toNat heq
  rw [BitVec.toNat_ofNat, BitVec.toNat_ofNat, Nat.mod_eq_of_lt hn, Nat.mod_eq_of_lt hk] at htoNat
  exact h htoNat

theorem finite_eq {n : Nat} {d : Int} {hm : 0 < m} {hn : 0 < n} (h : m = n) (he : e = d) :
    UnpackedFloat.finite s m e hm = .finite s n d hn := by
  subst h he
  rfl

/-- A double with all of its bits is read back as it is. -/
theorem packed_of_isStandard (h : IsStandard m e) (hm : 0 < m) :
    packed (.finite s m e hm) = .finite s m e hm := by
  obtain ⟨hlt, hle, hlimit, hnormal⟩ := h
  have hhidden : hidden = 2 ^ 52 := rfl
  have hleast : least = -1074 := rfl
  have hlimit' : limit = 972 := rfl
  have hbias : Format.binary64.exponentBias = 1023 := rfl
  rw [packed, pack, if_neg (mt (biased_iff e).mp (Int.not_le_of_gt hlimit))]
  by_cases hlow : hidden ≤ m
  · have hlog : m.log2 = 52 := (Nat.log2_eq_iff hm.ne').mpr ⟨hlow, hlt⟩
    rw [if_pos (show m.log2 + 1 = Format.binary64.mantissaBits by rw [hlog]; rfl)]
    simp only [unpack, unpackExponent_packComponents, unpackMantissa_packComponents,
      unpackSign_packComponents, Sign.ofBitVec_toBitVec]
    obtain ⟨b, hb⟩ : ∃ b : Nat, b = e + 1075 := ⟨(e + 1075).toNat, by omega⟩
    have hbiased : (e + Format.binary64.exponentBias + (52 : Nat)).toNat = b := by omega
    have hsmall : b < 2 ^ 11 := by omega
    have hlast : BitVec.ofNat 11 b ≠ -1#11 :=
      bitVec_ofNat_ne (k := 2047) hsmall (by decide) (by omega)
    rw [hbiased, if_neg hlast, if_neg (bitVec_ofNat_ne hsmall (by decide) (by omega))]
    refine finite_eq ?_ ?_
    · rw [toNat_one_append, BitVec.toNat_ofNat]
      omega
    · rw [BitVec.toNat_ofNat, Nat.mod_eq_of_lt hsmall]
      omega
  · have hlog : m.log2 < 52 := (Nat.log2_lt hm.ne').mpr (Nat.not_le.mp hlow)
    obtain rfl : e = least := hnormal.resolve_left hlow
    have hbits : Format.binary64.mantissaBits = 53 := rfl
    rw [hbits, if_neg (by omega)]
    simp only [unpack, unpackExponent_packComponents, unpackMantissa_packComponents,
      unpackSign_packComponents, Sign.ofBitVec_toBitVec]
    rw [if_neg (by decide), if_pos trivial,
      dif_neg (bitVec_ofNat_ne (by omega) (by decide) hm.ne')]
    refine finite_eq ?_ rfl
    rw [BitVec.toNat_ofNat]
    exact Nat.mod_eq_of_lt (by omega)

/-- The double of a normal number has the same bits. -/
theorem round_two_mul (hm : 0 < m) (hlow : hidden ≤ m) (hlt : m < 2 * hidden) (he : least ≤ e) :
    UnpackedFloat.round .binary64 s (2 * m) e = .finite s m (e + 1) hm := by
  have hlog : m.log2 = 52 := (Nat.log2_eq_iff hm.ne').mpr ⟨hlow, hlt⟩
  have hlog' : (2 * m).log2 = 0 + 53 := by rw [Nat.log2_two_mul hm.ne', hlog]
  have hshift : (e - Format.binary64.targetExponent (totalExponent (2 * m) e)).toNat = 0 := by
    rw [target_eq, totalExponent, hlog']
    omega
  have hwhole : whole (2 * m) >>> (0 + 1) = whole m := by
    rw [shiftRight_whole, Nat.zero_add, Nat.pow_one, Nat.pow_zero, Nat.div_one, Nat.mod_one,
      Nat.mul_mod_right, Nat.mul_div_cancel_left m two_pos]
    rfl
  have hfits : Format.binary64.targetExponent (totalExponent m (e + 1)) ≤ e + 1 := by
    rw [target_eq, totalExponent, hlog]
    omega
  have hfirst := shift_of_log2 hlog' he
  rw [hwhole] at hfirst
  rw [UnpackedFloat.round, decreaseExponent]
  dsimp only
  rw [hshift, Nat.shiftLeft_zero, Int.natCast_zero, Int.sub_zero]
  exact roundWithAccuracy_eq hfirst (shift_of_le hfits) hm

/-- The double of a smaller number has room for one more bit. -/
theorem round_small (hm : 0 < m) (hlt : m < 2 * hidden) :
    UnpackedFloat.round .binary64 s m least = .finite s m least hm := by
  have hlog : m.log2 < 53 := (Nat.log2_lt hm.ne').mpr hlt
  have htarget : Format.binary64.targetExponent (totalExponent m least) = least := by
    rw [target_eq, totalExponent]
    omega
  rw [UnpackedFloat.round, decreaseExponent]
  dsimp only
  rw [htarget, Int.sub_self, Int.toNat_zero, Nat.shiftLeft_zero, Int.natCast_zero, Int.sub_zero]
  exact roundWithAccuracy_eq (shift_of_le htarget.le) (shift_of_le htarget.le) hm

theorem add_finite_self (hm : 0 < m) :
    add .binary64 (.finite .positive m e hm) (.finite .positive m e hm) =
      UnpackedFloat.round .binary64 .positive (2 * m) e := by
  rw [add_finite, Int.min_self, Int.sub_self, Int.toNat_zero, Nat.shiftLeft_zero, Nat.two_mul]

theorem count?_standard (h : IsStandard m e) (hm : 0 < m) :
    count? (packed (.finite .positive m e hm)) = some (min (magnitude m e : Int) beyond) := by
  rw [packed_of_isStandard h,
    Int.min_eq_left (Int.ofNat_le.mpr (magnitude_lt_beyond h).le)]
  rfl

theorem beyond_le_magnitude (hlow : hidden ≤ m) (h : limit ≤ e) : beyond ≤ magnitude m e := by
  calc beyond
    _ = magnitude hidden limit := (magnitude_succ hidden (by decide)).symm
    _ ≤ magnitude hidden e := magnitude_le_exponent hidden h
    _ ≤ magnitude m e := magnitude_le hlow _

/-- Doubling a normal number moves its exponent, and of another one the bits. -/
theorem count?_round_two_mul (h : IsStandard m e) (hm : 0 < m) :
    count? (packed (UnpackedFloat.round .binary64 .positive (2 * m) e)) =
      some (min (magnitude (2 * m) e : Int) beyond) := by
  obtain ⟨hlt, hle, hlimit, hnormal⟩ := h
  by_cases hlow : hidden ≤ m
  · rw [round_two_mul hm hlow hlt hle, ← magnitude_succ m hle]
    by_cases hnext : e + 1 < limit
    · exact count?_standard ⟨hlt, by omega, hnext, .inl hlow⟩ hm
    · have hbeyond := beyond_le_magnitude hlow (Int.not_lt.mp hnext)
      rw [packed_of_limit_le (Int.not_lt.mp hnext), Int.min_eq_right (Int.ofNat_le.mpr hbeyond)]
      rfl
  · obtain rfl : e = least := hnormal.resolve_left hlow
    have hlt' : 2 * m < 2 * hidden := by omega
    rw [round_small (by omega) hlt']
    exact count?_standard ⟨hlt', hle, hlimit, .inr rfl⟩ _

/-- Twice the units, or those of an infinite double where these are no more. -/
theorem count?_double {u : UnpackedFloat} {a : Int} (hu : IsUnsigned u) (hc : IsCanonical u)
    (ha : count? u = some a) :
    count? (packed (add .binary64 u u)) = some (min (2 * a) beyond) := by
  have hbeyond : 0 < beyond := magnitude_pos (by decide) _
  cases u with
  | notANumber => cases ha
  | infinity s =>
    obtain rfl : s = .positive := hu
    cases ha
    have hsum : add .binary64 (.infinity .positive) (.infinity .positive) =
        .infinity .positive := rfl
    rw [hsum, packed_infinity, Int.min_eq_right (by simp only [Sign.apply]; omega)]
    rfl
  | zero s =>
    cases ha
    have hsum : add .binary64 (.zero s) (.zero s) = .zero s := by cases s <;> rfl
    rw [hsum, packed_zero, Int.min_eq_left (by omega)]
    rfl
  | finite s m e hm =>
    obtain rfl : s = .positive := hu
    cases ha
    have htwice : (2 * magnitude m e : Int) = magnitude (2 * m) e := by
      rw [magnitude_two_mul, Nat.cast_mul, Nat.cast_two]
    rw [add_finite_self, Sign.apply, htwice]
    exact count?_round_two_mul (hc _ _ _ _ rfl) hm

variable {x : Float} {a : Int}

theorem units?_double (hx : 0 ≤ x) (ha : units? x = some a) :
    units? (x + x) = some (min (2 * a) beyond) :=
  count?_double (isUnsigned_unpack_iff.mpr (nonneg_iff.mp hx).1) (isCanonical_unpack x) ha

end Outlier.Binary

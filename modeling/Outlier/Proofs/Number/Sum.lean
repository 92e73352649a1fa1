import Outlier.Proofs.Number.Rounding

/-! Sums and products of doubles that are not negative. -/
namespace Outlier.Binary
open Float.Model (Format UnpackedFloat)
open Float.Model.UnpackedFloat
variable {m : Nat} {e : Int} {s : Sign}

/-! Packing. -/

/-- A double as it is read back. -/
def packed (u : UnpackedFloat) : UnpackedFloat := unpack .binary64 (pack .binary64 u)

/-- There is no sign, but for that of a zero. -/
def IsUnsigned : UnpackedFloat → Prop
  | .infinity s => s = .positive
  | .finite s .. => s = .positive
  | _ => True

/-- There is neither a sign nor a lack of a number. -/
def IsNumber (u : UnpackedFloat) : Prop := IsUnsigned u ∧ u ≠ .notANumber

theorem packed_notANumber : packed .notANumber = .notANumber := unpack_packedNaN

theorem packed_infinity (s : Sign) : packed (.infinity s) = .infinity s := by
  simp [packed, pack, unpack, packedInfinity]

theorem packed_zero (s : Sign) : packed (.zero s) = .zero s := unpack_packedZero

theorem unpack_packComponents {exponent : BitVec Format.binary64.exponentBits}
    (h : exponent ≠ -1#_) (s : Sign)
    (mantissa : BitVec Format.binary64.mantissaBitsWithoutImplicit) :
    let u := unpack .binary64 (packComponents .binary64 s exponent mantissa)
    u.isFinite = true ∧ (s = .positive → IsUnsigned u) := by
  simp only [unpack, unpackExponent_packComponents, unpackMantissa_packComponents,
    unpackSign_packComponents, Sign.ofBitVec_toBitVec, if_neg h]
  split
  · split
    · exact ⟨rfl, fun _ => trivial⟩
    · exact ⟨rfl, id⟩
  · exact ⟨rfl, id⟩

/-- An exponent of the format is biased to less than the one that stands for infinity. -/
theorem biased_iff (e : Int) : 2 ^ Format.binary64.exponentBits ≤
    (e + Format.binary64.exponentBias + Format.binary64.mantissaBitsWithoutImplicit).toNat + 1 ↔
      limit ≤ e := by
  have hfraction : Format.binary64.mantissaBitsWithoutImplicit = 52 := rfl
  have hbits : 2 ^ Format.binary64.exponentBits = 2048 := rfl
  have hbias : Format.binary64.exponentBias = 1023 := rfl
  have hlimit : limit = 972 := rfl
  omega

theorem packed_of_limit_le {h : 0 < m} (he : limit ≤ e) :
    packed (.finite s m e h) = .infinity s := by
  rw [packed, pack, if_pos ((biased_iff e).mpr he)]
  exact packed_infinity s

theorem packed_of_lt_limit {h : 0 < m} (he : e < limit) :
    (packed (.finite s m e h)).isFinite = true ∧
      (s = .positive → IsUnsigned (packed (.finite s m e h))) := by
  have hsmall := mt (biased_iff e).mp (Int.not_le_of_gt he)
  rw [packed, pack, if_neg hsmall]
  split
  · refine unpack_packComponents ?_ _ _
    intro hlast
    have hbits : 2 ^ Format.binary64.exponentBits = 2048 := rfl
    have htoNat := congrArg BitVec.toNat hlast
    rw [BitVec.toNat_ofNat, Nat.mod_eq_of_lt (by omega)] at htoNat
    change _ = 2047 at htoNat
    omega
  · exact unpack_packComponents (by decide) _ _

theorem isFinite_packed_finite {h : 0 < m} :
    (packed (.finite s m e h)).isFinite = true ↔ e < limit := by
  by_cases he : e < limit
  · exact iff_of_true (packed_of_lt_limit he).1 he
  · rw [packed_of_limit_le (Int.not_lt.mp he)]
    exact iff_of_false Bool.false_ne_true he

theorem isUnsigned_packed {u : UnpackedFloat} (hu : IsUnsigned u) : IsUnsigned (packed u) := by
  cases u with
  | notANumber => rw [packed_notANumber]; trivial
  | infinity s => rwa [packed_infinity]
  | zero s => rw [packed_zero]; trivial
  | finite s m e h =>
    obtain rfl : s = .positive := hu
    by_cases he : e < limit
    · exact (packed_of_lt_limit he).2 rfl
    · rw [packed_of_limit_le (Int.not_lt.mp he)]
      rfl

/-- Packing makes nothing finite. -/
theorem isFinite_of_packed {u : UnpackedFloat} (hu : (packed u).isFinite = true) :
    u.isFinite = true := by
  cases u with
  | notANumber => rwa [packed_notANumber] at hu
  | infinity s => rwa [packed_infinity] at hu
  | zero s => rfl
  | finite s m e h => rfl

theorem isNumber_packed {u : UnpackedFloat} (hu : IsNumber u) : IsNumber (packed u) := by
  refine ⟨isUnsigned_packed hu.1, ?_⟩
  cases u with
  | notANumber => exact absurd rfl hu.2
  | infinity s => rw [packed_infinity]; exact hu.2
  | zero s => rw [packed_zero]; exact hu.2
  | finite s m e h =>
    by_cases he : e < limit
    · intro hnan
      have hfinite := (packed_of_lt_limit (s := s) (h := h) he).1
      rw [hnan] at hfinite
      cases hfinite
    · rw [packed_of_limit_le (Int.not_lt.mp he)]
      exact UnpackedFloat.noConfusion

/-! Sums and products. -/

theorem isNumber_roundWithAccuracy (m : Nat) (e : Int) (a : Accuracy) :
    IsNumber (roundWithAccuracy .binary64 .positive m e a) := by
  unfold roundWithAccuracy
  dsimp only
  split
  · exact ⟨trivial, UnpackedFloat.noConfusion⟩
  · exact ⟨rfl, UnpackedFloat.noConfusion⟩

variable {u v : UnpackedFloat}

theorem add_finite {n : Nat} {d : Int} (hm : 0 < m) (hn : 0 < n) :
    add .binary64 (.finite .positive m d hm) (.finite .positive n e hn) =
      UnpackedFloat.round .binary64 .positive
        (m <<< (d - min d e).toNat + n <<< (e - min d e).toNat) (min d e) := by
  have hpos := shiftLeft_pos hm (d - min d e).toNat
  simp only [add, decreaseExponent, Sign.apply, UnpackedFloat.normalize, ← Int.natCast_add]
  rw [Int.compare_eq_gt.mpr (Int.natCast_pos.mpr (Nat.add_pos_left hpos _)), Int.toNat_natCast]

theorem magnitude_sum (m n : Nat) {d e : Int} (hd : least ≤ d) (he : least ≤ e) :
    magnitude (m <<< (d - min d e).toNat + n <<< (e - min d e).toNat) (min d e) =
      magnitude m d + magnitude n e := by
  have hshift (m : Nat) {c d : Int} (hc : least ≤ c) (hd : c ≤ d) :
      magnitude (m <<< (d - c).toNat) c = magnitude m d := by
    rw [Nat.shiftLeft_eq, ← magnitude_shift m hc]
    congr 1
    omega
  have hmin : least ≤ min d e := by omega
  rw [← hshift m hmin (by omega), ← hshift n hmin (by omega : min d e ≤ e)]
  exact Nat.add_mul _ _ _

theorem isNumber_add (hu : IsNumber u) (hv : IsNumber v) : IsNumber (add .binary64 u v) := by
  cases u with
  | notANumber => exact absurd rfl hu.2
  | infinity s =>
    obtain rfl : s = .positive := hu.1
    cases v with
    | infinity t =>
      obtain rfl : t = .positive := hv.1
      exact hu
    | notANumber => exact absurd rfl hv.2
    | _ => exact hu
  | zero s =>
    cases v with
    | zero t => cases s <;> cases t <;> exact ⟨trivial, UnpackedFloat.noConfusion⟩
    | _ => exact hv
  | finite s m d hm =>
    obtain rfl : s = .positive := hu.1
    cases v with
    | notANumber => exact absurd rfl hv.2
    | infinity t => exact hv
    | zero t => exact hu
    | finite t n e hn =>
      obtain rfl : t = .positive := hv.1
      rw [add_finite]
      exact isNumber_roundWithAccuracy _ _ _

theorem isUnsigned_add (hu : IsUnsigned u) (hv : IsUnsigned v) :
    IsUnsigned (add .binary64 u v) := by
  by_cases hu' : u = .notANumber
  · subst hu'
    trivial
  by_cases hv' : v = .notANumber
  · subst hv'
    cases u <;> trivial
  exact (isNumber_add ⟨hu, hu'⟩ ⟨hv, hv'⟩).1

theorem isUnsigned_mul (hu : IsUnsigned u) (hv : IsUnsigned v) :
    IsUnsigned (mul .binary64 u v) := by
  have hsign : (Sign.positive * Sign.positive) = .positive := rfl
  cases u with
  | notANumber => trivial
  | zero s => cases v <;> trivial
  | infinity s =>
    obtain rfl : s = .positive := hu
    cases v with
    | infinity t =>
      obtain rfl : t = .positive := hv
      rfl
    | finite t n e hn =>
      obtain rfl : t = .positive := hv
      rfl
    | _ => trivial
  | finite s m d hm =>
    obtain rfl : s = .positive := hu
    cases v with
    | infinity t =>
      obtain rfl : t = .positive := hv
      rfl
    | finite t n e hn =>
      obtain rfl : t = .positive := hv
      exact (isNumber_roundWithAccuracy _ _ _).1
    | _ => trivial

theorem isNumber_mul (hu : IsUnsigned u) (hu' : u.isFinite = true) (hv : IsUnsigned v)
    (hv' : v.isFinite = true) : IsNumber (mul .binary64 u v) := by
  refine ⟨isUnsigned_mul hu hv, ?_⟩
  cases u with
  | notANumber => exact absurd hu' Bool.false_ne_true
  | infinity s => exact absurd hu' Bool.false_ne_true
  | zero s =>
    cases v with
    | notANumber => exact absurd hv' Bool.false_ne_true
    | infinity t => exact absurd hv' Bool.false_ne_true
    | _ => exact UnpackedFloat.noConfusion
  | finite s m d hm =>
    obtain rfl : s = .positive := hu
    cases v with
    | notANumber => exact absurd hv' Bool.false_ne_true
    | infinity t => exact absurd hv' Bool.false_ne_true
    | zero t => exact UnpackedFloat.noConfusion
    | finite t n e hn =>
      obtain rfl : t = .positive := hv
      exact (isNumber_roundWithAccuracy _ _ _).2

theorem isFinite_of_add (h : (add .binary64 u v).isFinite = true) :
    u.isFinite = true ∧ v.isFinite = true := by
  cases u <;> cases v
  case infinity.infinity s t => cases s <;> cases t <;> exact absurd h Bool.false_ne_true
  all_goals first | exact ⟨rfl, rfl⟩ | exact absurd h Bool.false_ne_true

theorem isFinite_of_mul (h : (mul .binary64 u v).isFinite = true) :
    u.isFinite = true ∧ v.isFinite = true := by
  cases u <;> cases v <;> first | exact ⟨rfl, rfl⟩ | exact absurd h Bool.false_ne_true

theorem count_nonneg {a : Int} (hu : IsUnsigned u) (ha : count? u = some a) : 0 ≤ a := by
  cases u with
  | notANumber => cases ha
  | infinity s =>
    obtain rfl : s = .positive := hu
    cases ha
    exact Int.natCast_nonneg _
  | zero s =>
    cases ha
    exact Int.le_refl 0
  | finite s m e h =>
    obtain rfl : s = .positive := hu
    cases ha
    exact Int.natCast_nonneg _

theorem isFinite_packed_iff {a : Int} (hu : IsUnsigned u) (hc : IsCanonical u)
    (ha : count? u = some a) : (packed u).isFinite = true ↔ a < overflow := by
  have hbeyond := overflow_lt_beyond
  cases u with
  | notANumber => cases ha
  | infinity s =>
    obtain rfl : s = .positive := hu
    cases ha
    rw [packed_infinity]
    exact iff_of_false Bool.false_ne_true (by simp only [Sign.apply]; omega)
  | zero s =>
    cases ha
    rw [packed_zero]
    exact iff_of_true rfl (Int.natCast_pos.mpr (magnitude_pos (by decide) _))
  | finite s m e h =>
    obtain rfl : s = .positive := hu
    cases ha
    have hm := hc _ _ _ _ rfl
    rw [isFinite_packed_finite]
    exact iff_of_true hm.exponent_lt
      (Int.ofNat_lt.mpr (magnitude_lt_overflow hm.mantissa_lt hm.exponent_lt))

/-- A sum is finite if its exact value is less than half a place above the largest double. -/
theorem isFinite_packed_add {a b : Int} (hu : IsUnsigned u) (hu' : IsCanonical u)
    (ha : count? u = some a) (hv : IsUnsigned v) (hv' : IsCanonical v) (hb : count? v = some b) :
    (packed (add .binary64 u v)).isFinite = true ↔ a + b < overflow := by
  have ha' := count_nonneg hu ha
  have hb' := count_nonneg hv hb
  have hbeyond := overflow_lt_beyond
  have hfinite (h : (packed (add .binary64 u v)).isFinite = true) :=
    isFinite_of_add (isFinite_of_packed h)
  cases u with
  | notANumber => cases ha
  | infinity s =>
    obtain rfl : s = .positive := hu
    cases ha
    exact iff_of_false (fun h => absurd (hfinite h).1 Bool.false_ne_true)
      (by simp only [Sign.apply]; omega)
  | zero s =>
    cases ha
    rw [Int.zero_add, ← isFinite_packed_iff hv hv' hb]
    cases v with
    | zero t => cases s <;> cases t <;> exact iff_of_true rfl rfl
    | _ => exact Iff.rfl
  | finite s m d hm =>
    have hs : s = .positive := hu
    subst hs
    cases v with
    | notANumber => cases hb
    | infinity t =>
      obtain rfl : t = .positive := hv
      cases hb
      exact iff_of_false (fun h => absurd (hfinite h).2 Bool.false_ne_true)
        (by simp only [Sign.apply]; omega)
    | zero t =>
      cases hb
      rw [Int.add_zero, ← isFinite_packed_iff hu hu' ha]
      exact Iff.rfl
    | finite t n e hn =>
      obtain rfl : t = .positive := hv
      cases ha
      cases hb
      obtain ⟨-, hd, hd', -⟩ := hu' _ _ _ _ rfl
      obtain ⟨-, he, he', -⟩ := hv' _ _ _ _ rfl
      have hpos := shiftLeft_pos hm (d - min d e).toNat
      obtain ⟨k, c, h, hround, hlimit⟩ := round_limit (s := .positive)
        (Nat.add_pos_left hpos (n <<< (e - min d e).toNat)) (e := min d e) (by omega) (by omega)
      rw [add_finite, hround, isFinite_packed_finite, hlimit, magnitude_sum m n hd he]
      exact Int.ofNat_lt.symm

/-! The same of doubles as the program has them. -/

variable {x y : Float}

theorem unpack_add (x y : Float) : (x + y).toModel.unpack =
    packed (add .binary64 x.toModel.unpack y.toModel.unpack) := rfl

theorem unpack_mul (x y : Float) : (x * y).toModel.unpack =
    packed (mul .binary64 x.toModel.unpack y.toModel.unpack) := rfl

theorem isUnsigned_iff {u : UnpackedFloat} : IsUnsigned u ↔ ∀ a, count? u = some a → 0 ≤ a := by
  refine ⟨fun hu a => count_nonneg hu, fun h => ?_⟩
  have hbeyond : 0 < beyond := magnitude_pos (by decide) _
  cases u with
  | notANumber => trivial
  | zero s => trivial
  | infinity s =>
    cases s
    · exact absurd (h _ rfl) (by simp only [Sign.apply]; omega)
    · rfl
  | finite s m e hm =>
    have hm' := magnitude_pos hm e
    cases s
    · exact absurd (h _ rfl) (by simp only [Sign.apply]; omega)
    · rfl

theorem not_neg_iff : ¬ x < 0 ↔ ∀ a, units? x = some a → 0 ≤ a := by
  rw [lt_iff, units?_zero]
  constructor
  · intro h a ha
    by_contra hlt
    exact h ⟨a, 0, ha, rfl, Int.not_le.mp hlt⟩
  · rintro h ⟨a, b, ha, hb, hlt⟩
    cases hb
    exact absurd (h a ha) (Int.not_le.mpr hlt)

theorem isUnsigned_unpack_iff : IsUnsigned x.toModel.unpack ↔ ¬ x < 0 :=
  isUnsigned_iff.trans not_neg_iff.symm

theorem nonneg_iff : 0 ≤ x ↔ ¬ x < 0 ∧ ∃ a, units? x = some a := by
  rw [le_iff, not_neg_iff, units?_zero]
  constructor
  · rintro ⟨a, b, ha, hb, hle⟩
    cases ha
    exact ⟨fun c hc => Option.some.inj (hb.symm.trans hc) ▸ hle, b, hb⟩
  · rintro ⟨h, a, ha⟩
    exact ⟨0, a, rfl, ha, h a ha⟩

theorem float_le_of_not_lt (hx : 0 ≤ x) (hy : 0 ≤ y) (h : ¬ x < y) : y ≤ x := by
  obtain ⟨-, a, ha⟩ := nonneg_iff.mp hx
  obtain ⟨-, b, hb⟩ := nonneg_iff.mp hy
  refine le_iff.mpr ⟨b, a, hb, ha, ?_⟩
  by_contra hlt
  exact h (lt_iff.mpr ⟨a, b, ha, hb, Int.not_le.mp hlt⟩)

theorem float_le_refl (hx : 0 ≤ x) : x ≤ x := by
  obtain ⟨-, a, ha⟩ := nonneg_iff.mp hx
  exact le_iff.mpr ⟨a, a, ha, ha, Int.le_refl a⟩

theorem exists_units?_iff : (∃ a, units? x = some a) ↔ x.toModel.unpack ≠ .notANumber := by
  rw [units?]
  cases x.toModel.unpack with
  | notANumber => exact iff_of_false (fun ⟨a, ha⟩ => nomatch ha) fun h => h rfl
  | _ => exact iff_of_true ⟨_, rfl⟩ UnpackedFloat.noConfusion

theorem units?_of_isFinite (h : x.isFinite = true) : ∃ a, units? x = some a :=
  exists_units?_iff.mpr fun hnan => by
    have h : x.toModel.unpack.isFinite = true := h
    rw [hnan] at h
    cases h

theorem isNumber_unpack_iff : IsNumber x.toModel.unpack ↔ 0 ≤ x := by
  rw [nonneg_iff, ← isUnsigned_unpack_iff, exists_units?_iff]
  exact Iff.rfl

theorem add_not_neg (hx : ¬ x < 0) (hy : ¬ y < 0) : ¬ x + y < 0 := by
  rw [← isUnsigned_unpack_iff] at *
  rw [unpack_add]
  exact isUnsigned_packed (isUnsigned_add hx hy)

theorem mul_not_neg (hx : ¬ x < 0) (hy : ¬ y < 0) : ¬ x * y < 0 := by
  rw [← isUnsigned_unpack_iff] at *
  rw [unpack_mul]
  exact isUnsigned_packed (isUnsigned_mul hx hy)

theorem float_add_nonneg (hx : 0 ≤ x) (hy : 0 ≤ y) : 0 ≤ x + y := by
  rw [← isNumber_unpack_iff] at *
  rw [unpack_add]
  exact isNumber_packed (isNumber_add hx hy)

/-- No number is the product of zero and an infinite one. -/
theorem float_mul_nonneg (hx : ¬ x < 0) (hx' : x.isFinite = true) (hy : ¬ y < 0)
    (hy' : y.isFinite = true) : 0 ≤ x * y := by
  rw [← isUnsigned_unpack_iff] at hx hy
  rw [← isNumber_unpack_iff, unpack_mul]
  exact isNumber_packed (isNumber_mul hx hx' hy hy')

theorem isFinite_of_isFinite_add (h : (x + y).isFinite = true) :
    x.isFinite = true ∧ y.isFinite = true :=
  isFinite_of_add (isFinite_of_packed h)

theorem isFinite_of_isFinite_mul (h : (x * y).isFinite = true) :
    x.isFinite = true ∧ y.isFinite = true :=
  isFinite_of_mul (isFinite_of_packed h)

theorem isFinite_add_iff {a b : Int} (hx : ¬ x < 0) (ha : units? x = some a) (hy : ¬ y < 0)
    (hb : units? y = some b) : (x + y).isFinite = true ↔ a + b < overflow :=
  isFinite_packed_add (isUnsigned_unpack_iff.mpr hx) (isCanonical_unpack x) ha
    (isUnsigned_unpack_iff.mpr hy) (isCanonical_unpack y) hb

/-- A sum of less is finite if the sum of more is. -/
theorem isFinite_add_of_le {z : Float} (hx : ¬ x < 0) (hxz : x ≤ z) (hy : ¬ y < 0)
    (h : (z + y).isFinite = true) : (x + y).isFinite = true := by
  obtain ⟨a, c, ha, hc, hac⟩ := le_iff.mp hxz
  obtain ⟨b, hb⟩ := units?_of_isFinite (isFinite_of_isFinite_add h).2
  have ha' := not_neg_iff.mp hx a ha
  have hz : ¬ z < 0 := not_neg_iff.mpr fun d hd => by
    obtain rfl : c = d := Option.some.inj (hc.symm.trans hd)
    omega
  have hlt := (isFinite_add_iff hz hc hy hb).mp h
  exact (isFinite_add_iff hx ha hy hb).mpr (by omega)

end Outlier.Binary

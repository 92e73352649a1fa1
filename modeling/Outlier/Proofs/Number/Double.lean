import Mathlib
import Outlier.Number.Binary

/-! Doubles as whole numbers: every finite one is a multiple of the least positive one. -/
namespace Outlier.Binary
open Float.Model (Format UnpackedFloat)
open Float.Model.UnpackedFloat

/-! Bits, as the logic of doubles and as their exact value takes them apart. -/

def isNegative : Sign → Bool
  | .negative => true
  | .positive => false

/-- The exact value of an unpacked double. -/
def ofUnpacked : UnpackedFloat → Binary
  | .notANumber => .nan
  | .infinity s => .infinite (isNegative s)
  | .zero s => .finite (isNegative s) 0 least
  | .finite s m e _ => .finite (isNegative s) m e

section
variable (b : BitVec Format.binary64.numBits)

theorem toNat_unpackMantissa : (unpackMantissa b).toNat = b.toNat % hidden := by
  rw [unpackMantissa_def, BitVec.extractLsb'_toNat]
  rfl

theorem toNat_unpackExponent : (unpackExponent b).toNat = b.toNat / hidden % 2048 := by
  rw [unpackExponent_def, BitVec.extractLsb'_toNat, Nat.shiftRight_eq_div_pow]
  rfl

theorem toNat_unpackSign : (unpackSign b).toNat = b.toNat / 0x8000000000000000 := by
  have hb : b.toNat < 2 ^ 64 := b.isLt
  have hlt : b.toNat / 0x8000000000000000 < 2 ^ 1 := by omega
  rw [unpackSign_def, BitVec.extractLsb'_toNat, Nat.shiftRight_eq_div_pow]
  exact Nat.mod_eq_of_lt hlt

end

theorem isNegative_ofBitVec (v : BitVec 1) : isNegative (Sign.ofBitVec v) = (v.toNat == 1) := by
  rcases BitVec.eq_zero_or_eq_one v with rfl | rfl <;> rfl

theorem toNat_one_append {w : Nat} (v : BitVec w) : (1#1 ++ v).toNat = v.toNat + 2 ^ w := by
  rw [BitVec.toNat_append, ← Nat.shiftLeft_add_eq_or_of_lt v.isLt, Nat.shiftLeft_eq]
  simp [Nat.add_comm]

theorem toNat_eq_iff {w : Nat} {v : BitVec w} (u : BitVec w) : v = u ↔ v.toNat = u.toNat :=
  BitVec.toNat_inj.symm

theorem ofUnpacked_unpack (x : Float) : ofUnpacked x.toModel.unpack = ofFloat x := by
  have hmantissa := toNat_unpackMantissa x.toModel.toBits.toBitVec
  have hexponent := toNat_unpackExponent x.toModel.toBits.toBitVec
  have hsign := toNat_unpackSign x.toModel.toBits.toBitVec
  have hbits : x.toBits.toNat = x.toModel.toBits.toBitVec.toNat := rfl
  have hbias : (Format.binary64.exponentBias : Int) = 1023 := by decide
  have hleast : least = -1074 := rfl
  have hlast : (-1#11).toNat = 2047 := rfl
  simp only [ofFloat, hbits, ← hmantissa, ← hexponent, ← hsign, ← isNegative_ofBitVec,
    Float.Model.unpack, unpack, toNat_eq_iff (-1#11), toNat_eq_iff 0#11, toNat_eq_iff 0#52, hlast,
    BitVec.toNat_ofNat, Nat.zero_mod]
  split
  · split <;> rfl
  · split
    next h =>
      split
      next h' => simp [ofUnpacked, h']
      next h' => simp [ofUnpacked, h, hbias, hleast]
    next h =>
      rw [ofUnpacked, toNat_one_append, hbias, hleast]
      congr 1
      omega

/-! Units. -/

/-- One more than the exponent of the largest double. -/
def limit : Int := 972

def magnitude (m : Nat) (e : Int) : Nat := m * powerOfTwo (e - least)

/-- More than any finite double comes to. -/
def beyond : Nat := magnitude (2 * hidden) (limit - 1)

/-- How many times the least positive double is contained, which an infinite one counts as more
than any finite one. -/
def count? : UnpackedFloat → Option Int
  | .notANumber => none
  | .infinity s => some (s.apply beyond)
  | .zero _ => some 0
  | .finite s m e _ => some (s.apply (magnitude m e))

/-- The exponent is the least one or the mantissa has its first bit. -/
structure IsStandard (m : Nat) (e : Int) : Prop where
  mantissa_lt : m < 2 * hidden
  le_exponent : least ≤ e
  exponent_lt : e < limit
  isNormal : hidden ≤ m ∨ e = least

theorem isStandard_of_ofFloat {x : Float} {s : Bool} {m : Nat} {e : Int}
    (h : ofFloat x = finite s m e) : IsStandard m e := by
  unfold ofFloat at h
  dsimp only at h
  have hm : x.toBits.toNat % hidden < hidden := Nat.mod_lt _ (by decide)
  have he : x.toBits.toNat / hidden % 2048 < 2048 := Nat.mod_lt _ (by decide)
  generalize x.toBits.toNat / hidden % 2048 = biased at he h
  generalize x.toBits.toNat % hidden = fraction at hm h
  have hleast : least = -1074 := rfl
  have hlimit : limit = 972 := rfl
  split at h
  · split at h <;> cases h
  · split at h
    · cases h
      exact ⟨by omega, Int.le_refl _, by decide, .inr rfl⟩
    · cases h
      exact ⟨by omega, by omega, by omega, .inl (by omega)⟩

def IsCanonical (u : UnpackedFloat) : Prop :=
  ∀ s m e h, u = .finite s m e h → IsStandard m e

theorem isCanonical_unpack (x : Float) : IsCanonical x.toModel.unpack := by
  intro s m e h hx
  refine isStandard_of_ofFloat (x := x) (s := isNegative s) ?_
  rw [← ofUnpacked_unpack, hx, ofUnpacked]

theorem powerOfTwo_pos (e : Int) : 0 < powerOfTwo e := Nat.two_pow_pos _

theorem powerOfTwo_le {d e : Int} (h : d ≤ e) : powerOfTwo d ≤ powerOfTwo e :=
  Nat.pow_le_pow_right (by decide) (Int.toNat_le_toNat h)

theorem powerOfTwo_add {d : Int} (h : 0 ≤ d) (n : Nat) :
    powerOfTwo (d + n) = 2 ^ n * powerOfTwo d := by
  have hn : (d + n).toNat = n + d.toNat := by omega
  rw [powerOfTwo, hn]
  exact Nat.pow_add 2 n d.toNat

variable {m n : Nat} {d e : Int} {s t : Bool}

theorem magnitude_pos (h : 0 < m) (e : Int) : 0 < magnitude m e :=
  Nat.mul_pos h (powerOfTwo_pos _)

theorem magnitude_le (h : m ≤ n) (e : Int) : magnitude m e ≤ magnitude n e :=
  Nat.mul_le_mul_right _ h

theorem magnitude_lt_iff : magnitude m e < magnitude n e ↔ m < n :=
  Nat.mul_lt_mul_right (powerOfTwo_pos _)

theorem magnitude_le_exponent (m : Nat) (h : d ≤ e) : magnitude m d ≤ magnitude m e :=
  Nat.mul_le_mul_left _ (powerOfTwo_le (by omega))

theorem magnitude_two_mul (m : Nat) (e : Int) : magnitude (2 * m) e = 2 * magnitude m e :=
  Nat.mul_assoc 2 m _

/-- What the mantissa gains in bits is lost by the exponent. -/
theorem magnitude_shift (m : Nat) (h : least ≤ e) (k : Nat) :
    magnitude m (e + k) = magnitude (m * 2 ^ k) e := by
  have hp : powerOfTwo (e - least + k) = 2 ^ k * powerOfTwo (e - least) :=
    powerOfTwo_add (by omega) k
  rw [magnitude, magnitude, show e + k - least = e - least + k by omega, hp, Nat.mul_assoc]

theorem magnitude_succ (m : Nat) (h : least ≤ e) : magnitude m (e + 1) = magnitude (2 * m) e := by
  rw [Nat.mul_comm]
  exact magnitude_shift m h 1

theorem magnitude_lt_of_exponent (hm : m < 2 * hidden) (hd : least ≤ d) (hn : hidden ≤ n)
    (h : d < e) : magnitude m d < magnitude n e := by
  calc magnitude m d
    _ < magnitude (2 * hidden) d := magnitude_lt_iff.mpr hm
    _ = magnitude hidden (d + 1) := (magnitude_succ hidden hd).symm
    _ ≤ magnitude hidden e := magnitude_le_exponent hidden h
    _ ≤ magnitude n e := magnitude_le hn e

theorem magnitude_lt_beyond (h : IsStandard m e) : magnitude m e < beyond := by
  have he := h.exponent_lt
  calc magnitude m e
    _ < magnitude (2 * hidden) e := magnitude_lt_iff.mpr h.mantissa_lt
    _ ≤ beyond := magnitude_le_exponent _ (by omega)

/-! Order. -/

/-- Of two doubles the one with the larger exponent is larger. -/
theorem compare_magnitude (hm : IsStandard m d) (hn : IsStandard n e) :
    (compare d e).then (compare m n) = compare (magnitude m d) (magnitude n e) := by
  have hd := hm.le_exponent
  have he := hn.le_exponent
  rcases lt_trichotomy d e with h | rfl | h
  · have hlt := magnitude_lt_of_exponent hm.mantissa_lt hd (hn.isNormal.resolve_right (by omega)) h
    rw [Int.compare_eq_lt.mpr h, Nat.compare_eq_lt.mpr hlt]
    rfl
  · rw [Std.compare_self]
    change compare m n = _
    rcases lt_trichotomy m n with h | rfl | h
    · rw [Nat.compare_eq_lt.mpr h, Nat.compare_eq_lt.mpr (magnitude_lt_iff.mpr h)]
    · rw [Std.compare_self, Std.compare_self]
    · rw [Nat.compare_eq_gt.mpr h, Nat.compare_eq_gt.mpr (magnitude_lt_iff.mpr h)]
  · have hlt := magnitude_lt_of_exponent hn.mantissa_lt he (hm.isNormal.resolve_right (by omega)) h
    rw [Int.compare_eq_gt.mpr h, Nat.compare_eq_gt.mpr hlt]
    rfl

theorem compare_cast (a b : Nat) : compare (a : Int) b = compare a b := by
  rcases lt_trichotomy a b with h | rfl | h
  · rw [Nat.compare_eq_lt.mpr h, Int.compare_eq_lt.mpr (by omega)]
  · rw [Std.compare_self, Std.compare_self]
  · rw [Nat.compare_eq_gt.mpr h, Int.compare_eq_gt.mpr (by omega)]

theorem compare_neg (a b : Int) : compare (-a) (-b) = compare b a := by
  rcases lt_trichotomy a b with h | rfl | h
  · rw [Int.compare_eq_gt.mpr h, Int.compare_eq_gt.mpr (by omega)]
  · rw [Std.compare_self, Std.compare_self]
  · rw [Int.compare_eq_lt.mpr h, Int.compare_eq_lt.mpr (by omega)]

/-- Doubles are compared as their numbers of units. -/
theorem compare_eq {u v : UnpackedFloat} (hu : IsCanonical u) (hv : IsCanonical v) :
    u.compare v = (count? u).bind fun a => (count? v).map (compare a) := by
  have hbeyond : 0 < beyond := magnitude_pos (by decide) _
  have hlt {a b : Int} (h : a < b) : some .lt = some (compare a b) := by
    rw [Int.compare_eq_lt.mpr h]
  have hgt {a b : Int} (h : b < a) : some .gt = some (compare a b) := by
    rw [Int.compare_eq_gt.mpr h]
  have heq (a : Int) : some .eq = some (compare a a) := by rw [Std.compare_self]
  cases u with
  | notANumber => rfl
  | infinity s =>
    cases v with
    | notANumber => cases s <;> rfl
    | infinity t =>
      cases s <;> cases t
      case negative.positive => exact hlt (by simp only [Sign.apply]; omega)
      case positive.negative => exact hgt (by simp only [Sign.apply]; omega)
      all_goals exact heq _
    | zero t =>
      cases s
      · exact hlt (by simp only [Sign.apply]; omega)
      · exact hgt (by simp only [Sign.apply]; omega)
    | finite t n e hn =>
      have hn' := magnitude_lt_beyond (hv _ _ _ _ rfl)
      cases s <;> cases t
      all_goals first
        | exact hlt (by simp only [Sign.apply]; omega)
        | exact hgt (by simp only [Sign.apply]; omega)
  | zero s =>
    cases v with
    | notANumber => rfl
    | infinity t =>
      cases t
      · exact hgt (by simp only [Sign.apply]; omega)
      · exact hlt (by simp only [Sign.apply]; omega)
    | zero t => exact heq 0
    | finite t n e hn =>
      have hn' := magnitude_pos hn e
      cases t
      · exact hgt (by simp only [Sign.apply]; omega)
      · exact hlt (by simp only [Sign.apply]; omega)
  | finite s m d hm =>
    have hm' := magnitude_pos hm d
    have hm'' := magnitude_lt_beyond (hu _ _ _ _ rfl)
    cases v with
    | notANumber => cases s <;> rfl
    | infinity t =>
      cases s <;> cases t
      all_goals first
        | exact hlt (by simp only [Sign.apply]; omega)
        | exact hgt (by simp only [Sign.apply]; omega)
    | zero t =>
      cases s
      · exact hlt (by simp only [Sign.apply]; omega)
      · exact hgt (by simp only [Sign.apply]; omega)
    | finite t n e hn =>
      have hn' := magnitude_pos hn e
      have h := (compare_magnitude (hu _ _ _ _ rfl) (hv _ _ _ _ rfl)).trans (compare_cast _ _).symm
      cases s <;> cases t
      case negative.negative =>
        rw [UnpackedFloat.compare, h, Int.compare_swap]
        exact congrArg some (compare_neg _ _).symm
      case positive.positive => exact congrArg some h
      case negative.positive => exact hlt (by simp only [Sign.apply]; omega)
      case positive.negative => exact hgt (by simp only [Sign.apply]; omega)

/-- The units of a double, which stands for a number unless there are none. -/
def units? (x : Float) : Option Int := count? x.toModel.unpack

variable {x y : Float}

theorem compare_units (x y : Float) : x.toModel.unpack.compare y.toModel.unpack =
    (units? x).bind fun a => (units? y).map (compare a) :=
  compare_eq (isCanonical_unpack x) (isCanonical_unpack y)

theorem lt_iff : x < y ↔ ∃ a b, units? x = some a ∧ units? y = some b ∧ a < b := by
  have hlt : x < y ↔ (x.toModel.unpack.compare y.toModel.unpack == some .lt) = true :=
    decide_eq_true_iff
  rw [hlt, compare_units]
  cases units? x <;> cases units? y <;> simp [Int.compare_eq_lt]

theorem le_iff : x ≤ y ↔ ∃ a b, units? x = some a ∧ units? y = some b ∧ a ≤ b := by
  have hle : x ≤ y ↔ (x.toModel.unpack.compare y.toModel.unpack).any (·.isLE) = true :=
    decide_eq_true_iff
  rw [hle, compare_units]
  cases units? x <;> cases units? y <;> simp [Int.isLE_compare]

@[simp] theorem units?_zero : units? 0 = some 0 := by decide +kernel

/-- Only an infinite double has as many units as it can. -/
theorem isFinite_iff {a : Int} (ha : units? x = some a) :
    x.isFinite = true ↔ -beyond < a ∧ a < beyond := by
  have hbeyond : 0 < beyond := magnitude_pos (by decide) _
  have hcanonical := isCanonical_unpack x
  change x.toModel.unpack.isFinite = true ↔ _
  unfold units? at ha
  cases hx : x.toModel.unpack with
  | notANumber => rw [hx] at ha; cases ha
  | infinity s =>
    rw [hx] at ha
    cases ha
    refine iff_of_false Bool.false_ne_true ?_
    cases s <;> simp only [Sign.apply] <;> omega
  | zero s =>
    rw [hx] at ha
    cases ha
    exact iff_of_true rfl (by omega)
  | finite s m e h =>
    have hm := magnitude_lt_beyond (hcanonical _ _ _ _ hx)
    rw [hx] at ha
    cases ha
    refine iff_of_true rfl ?_
    cases s <;> simp only [Sign.apply] <;> omega

theorem isFinite_of_le (hx : 0 ≤ x) (hxy : x ≤ y) (hy : y.isFinite) : x.isFinite := by
  obtain ⟨z, a, hz, ha, hza⟩ := le_iff.mp hx
  obtain ⟨a', b, ha', hb, hab⟩ := le_iff.mp hxy
  have hbeyond : 0 < beyond := magnitude_pos (by decide) _
  rw [units?_zero] at hz
  cases hz
  rw [ha] at ha'
  cases ha'
  have hb := (isFinite_iff hb).mp hy
  exact (isFinite_iff ha).mpr (by omega)

theorem float_le_of_lt (h : x < y) : x ≤ y := by
  obtain ⟨a, b, ha, hb, hab⟩ := lt_iff.mp h
  exact le_iff.mpr ⟨a, b, ha, hb, hab.le⟩

/-! Values. -/

/-- The exact value of a double, and zero for one that stands for no finite number. -/
noncomputable def value (x : Float) : ℝ :=
  match ofFloat x with
  | .finite negative m e => signed negative m * 2 ^ e
  | _ => 0

/-- The value of an unpacked double, and zero where it is none. -/
noncomputable def amount : UnpackedFloat → ℝ
  | .finite s m e _ => s.apply m * 2 ^ e
  | _ => 0

theorem value_eq_amount (x : Float) : value x = amount x.toModel.unpack := by
  rw [value, ← ofUnpacked_unpack]
  cases x.toModel.unpack with
  | notANumber => rfl
  | infinity s => rfl
  | zero s => cases s <;> simp [ofUnpacked, amount, signed]
  | finite s m e h => cases s <;> simp [ofUnpacked, amount, signed, isNegative, Sign.apply]

/-- A number is off by at most `n` places of a double next to the number that is not rounded. -/
def IsNear (n : Nat) (y x : ℝ) : Prop := |y - x| ≤ n * (2 ^ (-52 : Int) * x + 2 ^ least)

theorem cast_magnitude (m : Nat) (he : least ≤ e) :
    (magnitude m e : ℝ) * 2 ^ least = m * 2 ^ e := by
  have hsplit : e = ((e - least).toNat : Int) + least := by omega
  have hcast : (powerOfTwo (e - least) : ℝ) = 2 ^ ((e - least).toNat : Int) := by
    rw [zpow_natCast]
    exact Nat.cast_pow 2 _
  rw [magnitude, Nat.cast_mul, hcast, mul_assoc, ← zpow_add₀ two_ne_zero, ← hsplit]

theorem value_eq (hx : x.isFinite) {a : Int} (ha : units? x = some a) :
    value x = a * 2 ^ least := by
  have hx : x.toModel.unpack.isFinite := hx
  unfold units? at ha
  rw [value, ← ofUnpacked_unpack]
  cases hu : x.toModel.unpack with
  | notANumber => rw [hu] at ha; cases ha
  | infinity s => rw [hu] at hx; cases hx
  | zero s =>
    rw [hu] at ha
    cases ha
    cases s <;> simp [ofUnpacked, signed]
  | finite s m e hm =>
    have he := (isCanonical_unpack x _ _ _ _ hu).le_exponent
    rw [hu] at ha
    cases ha
    have hpower := cast_magnitude m he
    cases s
    · simp [ofUnpacked, signed, isNegative, Sign.apply, hpower]
    · simp [ofUnpacked, signed, isNegative, Sign.apply, hpower]

theorem value_le_value (hx : x.isFinite) (hy : y.isFinite) (h : x ≤ y) : value x ≤ value y := by
  obtain ⟨a, b, ha, hb, h⟩ := le_iff.mp h
  rw [value_eq hx ha, value_eq hy hb]
  exact mul_le_mul_of_nonneg_right (Int.cast_le.mpr h) (zpow_nonneg two_pos.le _)

theorem value_lt_value (hx : x.isFinite) (hy : y.isFinite) (h : x < y) : value x < value y := by
  obtain ⟨a, b, ha, hb, h⟩ := lt_iff.mp h
  rw [value_eq hx ha, value_eq hy hb]
  exact mul_lt_mul_of_pos_right (Int.cast_lt.mpr h) (zpow_pos two_pos _)

theorem value_of_ofFloat {m : Nat} {e : Int} (h : ofFloat x = .finite false m e) :
    value x = m * 2 ^ e := by
  rw [value, h]
  exact congrArg (· * (2 : ℝ) ^ e) (Int.cast_natCast m)

theorem value_zero : value 0 = 0 := by
  have h : ofFloat 0 = .finite false 0 least := by decide +kernel
  rw [value_of_ofFloat h, Nat.cast_zero, zero_mul]

theorem value_one : value 1 = 1 := by
  have h : ofFloat 1 = .finite false hidden (-52) := by decide +kernel
  rw [value_of_ofFloat h]
  norm_num [hidden]

theorem value_two : value 2 = 2 := by
  have h : ofFloat 2 = .finite false hidden (-51) := by decide +kernel
  rw [value_of_ofFloat h]
  norm_num [hidden]

theorem value_nonneg (hx : 0 ≤ x) (h : x.isFinite) : 0 ≤ value x := by
  have hzero : (0 : Float).isFinite = true := by decide +kernel
  exact value_zero.symm.trans_le (value_le_value hzero h hx)

end Outlier.Binary

import Mathlib.Data.List.TakeWhile
import Outlier.Number.Decimal
import Outlier.Number.Numeral
import Outlier.Text.Quoted

/-! Numbers as they are written: in decimal for integers, and in hexadecimal of a fixed width. -/
namespace Outlier

namespace Numeral

theorem digitChar_ne_zero {n : Nat} (hn : n < 10) (h : 0 < n) : n.digitChar ≠ '0' := by
  intro hc
  have hd := Nat.toNat_digitChar_of_lt_ten hn
  rw [hc] at hd
  have hz : '0'.toNat = 48 := rfl
  omega

/-- No number but zero is written with a zero in front. -/
theorem head?_toDigits {n : Nat} (h : 0 < n) : (Nat.toDigits 10 n).head? ≠ some '0' := by
  induction n using Nat.strongRecOn with
  | ind n ih =>
    rw [Nat.toDigits_eq_if (by decide)]
    by_cases hn : n < 10
    · rw [if_pos hn, List.head?_cons]
      exact fun hc => digitChar_ne_zero hn h (Option.some.inj hc)
    · have hd := ih (n / 10) (by omega) (by omega)
      rw [if_neg hn, List.head?_append]
      cases ht : Nat.toDigits 10 (n / 10) with
      | nil => exact absurd ht Nat.toDigits_ne_nil
      | cons c ds => simpa [ht] using hd

theorem isDigit_of_mem_toDigits {n : Nat} {c : Char} (h : c ∈ Nat.toDigits 10 n) : c.isDigit :=
  Nat.isDigit_of_mem_toDigits (by decide) (by decide) h

/-- A run of digits is a numeral of a whole part alone. -/
theorem ofChars?_of_isDigit {ds : List Char} (h : ∀ c ∈ ds, c.isDigit) :
    ofChars? ds = some ⟨ds, none, none⟩ := by
  have hsplit : splitDigits ds = (ds, []) := by
    rw [splitDigits, List.takeWhile_eq_self_iff.mpr h, List.dropWhile_eq_nil_iff.mpr h]
  simp only [ofChars?, hsplit, splitFraction, readPower?, Option.map_some]

theorem isStrict_toDigits (n : Nat) : isStrict ⟨Nat.toDigits 10 n, none, none⟩ = true := by
  cases n with
  | zero => rfl
  | succ n =>
    have hh := head?_toDigits (Nat.succ_pos n)
    simp only [isStrict, Bool.and_eq_true, Bool.or_eq_true, bne_iff_ne, Option.all_none, and_true]
    exact .inr ⟨by simp, hh⟩

theorem natOf_toDigits (n : Nat) : natOf (Nat.toDigits 10 n) = n := Nat.ofDigitChars_ten_toDigits

end Numeral

namespace Decimal

theorem digitCount_pos (n : Nat) : 0 < digitCount n :=
  List.length_pos_iff.mpr Nat.toDigits_ne_nil

theorem digitCount_le {m n : Nat} (h : m ≤ n) : digitCount m ≤ digitCount n := by
  have hlt := (Nat.length_toDigits_le_iff (by decide) (digitCount_pos n)).mp (Nat.le_refl _)
  exact (Nat.length_toDigits_le_iff (by decide) (digitCount_pos n)).mpr (Nat.lt_of_le_of_lt h hlt)

/-- The least number of more than so many digits. -/
theorem lt_digitCount_pow {digits : Nat} (h : 0 < digits) :
    digits < digitCount (Nat.pow 10 digits) := by
  rw [digitCount, ← Nat.not_le, Nat.length_toDigits_le_iff (by decide) h]
  exact Nat.lt_irrefl _

end Decimal

namespace Quoted

theorem hex_one {n : Nat} (h : n < 16) : hex 1 n = [n.digitChar] := by
  rw [hex, Nat.toDigits_of_lt_base h]
  rfl

/-- The last digit of more than one. -/
theorem hex_succ {width n : Nat} (hw : 0 < width) :
    hex (width + 1) n = hex width (n / 16) ++ [(n % 16).digitChar] := by
  unfold hex
  by_cases h : n < 16
  · obtain ⟨w, rfl⟩ := Nat.exists_eq_add_of_lt hw
    rw [Nat.toDigits_of_lt_base h, Nat.div_eq_of_lt h, Nat.mod_eq_of_lt h, Nat.toDigits_zero]
    simp [List.replicate_succ']
  · rw [Nat.toDigits_of_base_le (by decide) (Nat.le_of_not_lt h)]
    simp

/-- Four digits of a number of 16 bits. -/
theorem hex_four {n : Nat} (h : n < 0x10000) :
    hex 4 n = [(n / 16 / 16 / 16).digitChar, (n / 16 / 16 % 16).digitChar,
      (n / 16 % 16).digitChar, (n % 16).digitChar] := by
  rw [hex_succ (by decide), hex_succ (by decide), hex_succ (by decide), hex_one (by omega)]
  rfl

end Quoted
end Outlier

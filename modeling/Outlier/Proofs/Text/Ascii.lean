import Outlier.Text.CodeSet
import Outlier.Text.Utf8

/-! ASCII in UTF-8: one byte for each character. -/
namespace Outlier.Utf8

theorem utf8EncodeChar_of_isAscii {c : Char} (h : isAscii c = true) :
    String.utf8EncodeChar c = [c.val.toUInt8] := by
  have hn : c.toNat < 128 := by simpa [isAscii] using h
  have hv : c.val ≤ 127 := by
    rw [UInt32.le_iff_toNat_le]
    exact Nat.le_of_lt_succ hn
  exact String.utf8EncodeChar_eq_singleton (Char.utf8Size_eq_one_iff.mpr hv)

theorem toNat_byte {c : Char} (h : isAscii c = true) : c.val.toUInt8.toNat = c.toNat := by
  have hn : c.toNat < 128 := by simpa [isAscii] using h
  rw [UInt32.toNat_toUInt8]
  exact Nat.mod_eq_of_lt (by omega : c.toNat < 256)

theorem lt_of_mem_encodeChars {s : List Char} (h : ∀ c ∈ s, isAscii c = true) {b : UInt8}
    (hb : b ∈ encodeChars s) : b < 0x80 := by
  obtain ⟨c, hc, hb⟩ := List.mem_flatMap.mp hb
  rw [utf8EncodeChar_of_isAscii (h c hc), List.mem_singleton] at hb
  rw [hb, UInt8.lt_iff_toNat_lt, toNat_byte (h c hc)]
  simpa [isAscii] using h c hc

end Outlier.Utf8

import Mathlib.Data.Nat.Notation
import Outlier.Text.Utf8

/-! UTF-8 there and back: the bytes of a text are read as the text. -/
namespace Outlier.Utf8

variable {n payload : Nat} {lo hi : UInt8}

theorem toNat_byte_of_lt (h : n < 256) : (UInt8.ofNat n).toNat = n := by
  rw [UInt8.toNat_ofNat']
  exact Nat.mod_eq_of_lt h

/-- The first byte of a character tells by its range how many follow. -/
theorem opening_ofNat (h : n < 256) :
    opening (UInt8.ofNat n) =
      if n < 0x80 then ([some (Char.ofNat n)], .start)
      else if n < 0xC2 then ([none], .start)
      else if n < 0xE0 then ([], .within (n - 0xC0) 0x80 0xBF 0)
      else if n < 0xF0 then
        ([], .within (n - 0xE0) (if n = 0xE0 then 0xA0 else 0x80)
          (if n = 0xED then 0x9F else 0xBF) 1)
      else if n < 0xF5 then
        ([], .within (n - 0xF0) (if n = 0xF0 then 0x90 else 0x80)
          (if n = 0xF4 then 0x8F else 0xBF) 2)
      else ([none], .start) := by
  have hlt (b : UInt8) : UInt8.ofNat n < b ↔ n < b.toNat := by
    rw [UInt8.lt_iff_toNat_lt, toNat_byte_of_lt h]
  have heq (b : UInt8) : UInt8.ofNat n = b ↔ n = b.toNat := by
    rw [← UInt8.toNat_inj, toNat_byte_of_lt h]
  simp only [opening, hlt, heq, toNat_byte_of_lt h]
  rfl

/-- The last byte of a character within its range. -/
theorem step_last (h : n < 256) (hlo : lo.toNat ≤ n) (hhi : n ≤ hi.toNat) :
    step (.within payload lo hi 0) (UInt8.ofNat n) =
      ([some (Char.ofNat (payload * 64 + (n - 0x80)))], .start) := by
  have hin : lo ≤ UInt8.ofNat n ∧ UInt8.ofNat n ≤ hi := by
    simpa [UInt8.le_iff_toNat_le, toNat_byte_of_lt h] using And.intro hlo hhi
  rw [step, if_pos hin, toNat_byte_of_lt h]

theorem step_inner {due : Nat} (h : n < 256) (hlo : lo.toNat ≤ n) (hhi : n ≤ hi.toNat) :
    step (.within payload lo hi (due + 1)) (UInt8.ofNat n) =
      ([], .within (payload * 64 + (n - 0x80)) 0x80 0xBF due) := by
  have hin : lo ≤ UInt8.ofNat n ∧ UInt8.ofNat n ≤ hi := by
    simpa [UInt8.le_iff_toNat_le, toNat_byte_of_lt h] using And.intro hlo hhi
  rw [step, if_pos hin, toNat_byte_of_lt h]

theorem scan_cons (s : State) (b : UInt8) (bs : List UInt8) :
    scan s (b :: bs) = (step s b).1 ++ scan (step s b).2 bs := rfl

/-- Every byte but the first two of a character is in the full range. -/
theorem mem_full (n : Nat) :
    (0x80 : UInt8).toNat ≤ n % 64 + 128 ∧ n % 64 + 128 ≤ (0xBF : UInt8).toNat := by
  simp only [UInt8.reduceToNat]
  omega

variable {bs : List UInt8}

theorem scan_two (hlo : 0x80 ≤ n) (hhi : n < 0x800) :
    scan .start (UInt8.ofNat (n / 64 % 32 + 192) :: UInt8.ofNat (n % 64 + 128) :: bs) =
      some (Char.ofNat n) :: scan .start bs := by
  have hp : (n / 64 % 32 + 192 - 0xC0) * 64 + (n % 64 + 128 - 0x80) = n := by omega
  simp only [scan_cons]
  rw [step, opening_ofNat (by omega), if_neg (by omega), if_neg (by omega), if_pos (by omega),
    step_last (by omega) (mem_full n).1 (mem_full n).2, hp]
  rfl

/-- The range of the second byte shuts out surrogates, which no character is. -/
theorem scan_three (hlo : 0x800 ≤ n) (hhi : n < 0x10000) (hs : n < 0xD800 ∨ 0xDFFF < n) :
    scan .start (UInt8.ofNat (n / 4096 % 16 + 224) :: UInt8.ofNat (n / 64 % 64 + 128) ::
      UInt8.ofNat (n % 64 + 128) :: bs) = some (Char.ofNat n) :: scan .start bs := by
  have hfirst : (if n / 4096 % 16 + 224 = 0xE0 then 0xA0 else 0x80 : UInt8).toNat ≤
      n / 64 % 64 + 128 := by
    split <;> simp only [UInt8.reduceToNat] <;> omega
  have hlast : n / 64 % 64 + 128 ≤
      (if n / 4096 % 16 + 224 = 0xED then 0x9F else 0xBF : UInt8).toNat := by
    split <;> simp only [UInt8.reduceToNat] <;> omega
  have hp : ((n / 4096 % 16 + 224 - 0xE0) * 64 + (n / 64 % 64 + 128 - 0x80)) * 64 +
      (n % 64 + 128 - 0x80) = n := by omega
  simp only [scan_cons]
  rw [step, opening_ofNat (by omega), if_neg (by omega), if_neg (by omega), if_neg (by omega),
    if_pos (by omega), step_inner (by omega) hfirst hlast,
    step_last (by omega) (mem_full n).1 (mem_full n).2, hp]
  rfl

theorem scan_four (hlo : 0x10000 ≤ n) (hhi : n < 0x110000) :
    scan .start (UInt8.ofNat (n / 262144 % 8 + 240) :: UInt8.ofNat (n / 4096 % 64 + 128) ::
      UInt8.ofNat (n / 64 % 64 + 128) :: UInt8.ofNat (n % 64 + 128) :: bs) =
      some (Char.ofNat n) :: scan .start bs := by
  have hfirst : (if n / 262144 % 8 + 240 = 0xF0 then 0x90 else 0x80 : UInt8).toNat ≤
      n / 4096 % 64 + 128 := by
    split <;> simp only [UInt8.reduceToNat] <;> omega
  have hlast : n / 4096 % 64 + 128 ≤
      (if n / 262144 % 8 + 240 = 0xF4 then 0x8F else 0xBF : UInt8).toNat := by
    split <;> simp only [UInt8.reduceToNat] <;> omega
  have hp : (((n / 262144 % 8 + 240 - 0xF0) * 64 + (n / 4096 % 64 + 128 - 0x80)) * 64 +
      (n / 64 % 64 + 128 - 0x80)) * 64 + (n % 64 + 128 - 0x80) = n := by omega
  simp only [scan_cons]
  rw [step, opening_ofNat (by omega), if_neg (by omega), if_neg (by omega), if_neg (by omega),
    if_neg (by omega), if_pos (by omega), step_inner (by omega) hfirst hlast,
    step_inner (by omega) (mem_full (n / 64)).1 (mem_full (n / 64)).2,
    step_last (by omega) (mem_full n).1 (mem_full n).2, hp]
  rfl

/-- A character is read from its bytes, whatever comes after them. -/
theorem scan_encodeChar (c : Char) (bs : List UInt8) :
    scan .start (String.utf8EncodeChar c ++ bs) = some c :: scan .start bs := by
  have hv : c.toNat < 0xD800 ∨ 0xDFFF < c.toNat ∧ c.toNat < 0x110000 := c.valid
  have hc : Char.ofNat c.toNat = c := Char.ofNat_toNat c
  simp only [String.utf8EncodeChar, show c.val.toNat = c.toNat from rfl]
  split
  · rw [List.singleton_append, scan_cons, step, opening_ofNat (by omega), if_pos (by omega), hc]
    rfl
  split
  · simp only [List.cons_append, List.nil_append]
    rw [scan_two (by omega) (by omega), hc]
  split
  · simp only [List.cons_append, List.nil_append]
    rw [scan_three (by omega) (by omega) (by omega), hc]
  · simp only [List.cons_append, List.nil_append]
    rw [scan_four (by omega) (by omega), hc]

theorem scan_encodeChars (s : List Char) : scan .start (encodeChars s) = s.map some := by
  induction s with
  | nil => rfl
  | cons c s ih =>
    rw [encodeChars, List.flatMap_cons, scan_encodeChar, ← encodeChars, ih]
    rfl

theorem decodeChars?_encodeChars (s : List Char) : decodeChars? (encodeChars s) = some s := by
  rw [decodeChars?, scan_encodeChars]
  induction s with
  | nil => rfl
  | cons c s ih =>
    simp only [List.map_cons, List.mapM_cons, ih]
    rfl

/-- The bytes of a text are read as the text. -/
theorem decode?_encode (s : String) : decode? (encode s) = some s := by
  rw [decode?, encode, decodeChars?_encodeChars, Option.map_some, String.ofList_toList]

end Outlier.Utf8

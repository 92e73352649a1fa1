import Outlier.Proofs.Exchange.Url
import Outlier.Proofs.Text.Utf8
import Outlier.Search

/-! Form encoding there and back: what is encoded is decoded as it was, pair by pair. -/
namespace Outlier

namespace Percent

theorem bytes_cons_of_ne {c : Char} (h : c ≠ '%') (s : List Char) :
    bytes (c :: s) = String.utf8EncodeChar c ++ bytes s := by
  rw [bytes]
  intro a b t hc _
  exact h hc

theorem bytes_escape {a b : Char} {m n : Nat} (ha : hexDigit? a = some m)
    (hb : hexDigit? b = some n)
    (s : List Char) : bytes ('%' :: a :: b :: s) = UInt8.ofNat (16 * m + n) :: bytes s := by
  rw [bytes, ha, hb]

end Percent

namespace Search

/-! Decoding: a form is split at each ampersand, a pair at its first equals sign. -/

def unplus (c : Char) : Char := if c = '+' then ' ' else c

def decodePart? (s : List Char) : Option String := Utf8.decode? (Percent.bytes (s.map unplus))

def decodePair? (s : List Char) : Option (String × String) := do
  let (name, value) := Url.cut '=' s
  return (← decodePart? name, ← decodePart? (value.getD []))

def decode? (s : List Char) : Option (List (String × String)) := (s.splitOn '&').mapM decodePair?

/-- The characters that a form is written with. -/
def isFormChar (c : Char) : Bool := c.isAlphanum || "_.-~+%=&".toList.contains c

/-! Bytes. -/

theorem hexDigit?_hexDigit : ∀ n < 16, Percent.hexDigit? (unplus (hexDigit n)) = some n := by decide

/-- An unreserved byte is a character of ASCII that stands for itself. -/
theorem unreserved_byte : ∀ n < 256, isUnreserved (UInt8.ofNat n) = true →
    Char.ofNat n ≠ '%' ∧ unplus (Char.ofNat n) = Char.ofNat n ∧
      String.utf8EncodeChar (Char.ofNat n) = [UInt8.ofNat n] := by decide +kernel

theorem bytes_encodeByte (b : UInt8) (s : List Char) :
    Percent.bytes ((encodeByte b).map unplus ++ s) = b :: Percent.bytes s := by
  have hb : b.toNat < 256 := b.toNat_lt
  have ho : UInt8.ofNat b.toNat = b := UInt8.ofNat_toNat
  unfold encodeByte
  split
  · rename_i hu
    obtain ⟨hp, hs, he⟩ := unreserved_byte b.toNat hb (by rwa [ho])
    rw [List.map_singleton, hs, List.singleton_append, Percent.bytes_cons_of_ne hp, he, ho]
    rfl
  · split
    · rename_i hs
      rw [hs]
      rfl
    · have hm : unplus '%' = '%' := rfl
      simp only [List.map_cons, List.map_nil, hm, List.cons_append, List.nil_append]
      rw [Percent.bytes_escape (hexDigit?_hexDigit _ (by omega)) (hexDigit?_hexDigit _ (by omega)),
        Nat.div_add_mod, ho]

theorem bytes_encodeBytes (bs : List UInt8) : Percent.bytes ((encodeBytes bs).map unplus) = bs := by
  induction bs with
  | nil => rfl
  | cons b bs ih =>
    rw [encodeBytes, List.flatMap_cons, List.map_append, bytes_encodeByte, ← encodeBytes, ih]

theorem decodePart?_encodeText (s : String) : decodePart? (encodeText s) = some s := by
  rw [decodePart?, encodeText, bytes_encodeBytes, Utf8.decode?_encode]

/-! What parts are written with. -/

theorem all_encodeByte : ((List.range 256).all fun n => (encodeByte (UInt8.ofNat n)).all fun c =>
    isFormChar c && (c != '&' && c != '=')) = true := by decide +kernel

theorem of_mem_encodeBytes {bs : List UInt8} {c : Char} (h : c ∈ encodeBytes bs) :
    isFormChar c = true ∧ c ≠ '&' ∧ c ≠ '=' := by
  obtain ⟨b, -, hc⟩ := List.mem_flatMap.mp h
  have hb := List.all_eq_true.mp all_encodeByte b.toNat (List.mem_range.mpr b.toNat_lt)
  rw [UInt8.ofNat_toNat] at hb
  simpa using List.all_eq_true.mp hb c hc

theorem of_mem_encodeText {s : String} {c : Char} (h : c ∈ encodeText s) :
    isFormChar c = true ∧ c ≠ '&' ∧ c ≠ '=' := of_mem_encodeBytes h

theorem of_mem_encodeValue {v : Value} {c : Char} (h : c ∈ encodeValue v) :
    isFormChar c = true ∧ c ≠ '&' ∧ c ≠ '=' := by
  unfold encodeValue at h
  split at h
  · exact of_mem_encodeBytes h
  · exact of_mem_encodeText h

/-! Pairs and forms. -/

/-- Criteria whose values are texts. -/
def ofTexts (ps : List (String × String)) : List (String × Value) :=
  ps.map fun p => (p.1, .text p.2)

theorem decodePair?_encodePair (p : String × String) :
    decodePair? (encodePair (p.1, .text p.2)) = some p := by
  have hno : '=' ∉ encodeText p.1 := fun h => (of_mem_encodeText h).2.2 rfl
  have hvalue : encodeValue (.text p.2) = encodeText p.2 := rfl
  simp only [decodePair?, encodePair, Url.cut_append hno, hvalue, Option.getD_some,
    decodePart?_encodeText]
  rfl

theorem not_mem_encodePair (p : String × String) : '&' ∉ encodePair (p.1, .text p.2) := by
  intro h
  rcases List.mem_append.mp h with h | h
  · exact (of_mem_encodeText h).2.1 rfl
  · rcases List.mem_cons.mp h with h | h
    · cases h
    · exact (of_mem_encodeText h).2.1 rfl

theorem mapM_decodePair? (ps : List (String × String)) :
    ((ofTexts ps).map encodePair).mapM decodePair? = some ps := by
  induction ps with
  | nil => rfl
  | cons p ps ih =>
    rw [ofTexts, List.map_cons, List.map_cons, List.mapM_cons, decodePair?_encodePair, ← ofTexts,
      ih]
    rfl

/-- Criteria by name, those of one name in the order in which they came. -/
def byName (ps : List (String × String)) : List (String × String) :=
  ps.mergeSort fun p q => p.1 ≤ q.1

theorem sorted_ofTexts (ps : List (String × String)) :
    sorted (ofTexts ps) = ofTexts (byName ps) := by
  rw [sorted, ofTexts, ofTexts, byName, List.map_mergeSort]
  exact fun _ _ _ _ => rfl

/-- A form holds its criteria by name, each of them as it was. -/
theorem decode?_encodeChars {ps : List (String × String)} (h : ps ≠ []) :
    decode? (encodeChars (ofTexts ps)) = some (byName ps) := by
  have hne : (ofTexts (byName ps)).map encodePair ≠ [] := by
    intro he
    have hlen := congrArg List.length he
    simp only [ofTexts, byName, List.length_map, List.length_mergeSort] at hlen
    exact h (List.length_eq_zero_iff.mp hlen)
  have hno : ∀ u ∈ (ofTexts (byName ps)).map encodePair, '&' ∉ u := by
    intro u hu
    obtain ⟨q, hq, rfl⟩ := List.mem_map.mp hu
    obtain ⟨p, -, rfl⟩ := List.mem_map.mp hq
    exact not_mem_encodePair p
  rw [decode?, encodeChars, sorted_ofTexts, List.splitOn_intercalate '&' hno hne, mapM_decodePair?]

theorem isFormChar_of_mem {ps : List (String × Value)} {c : Char} (h : c ∈ encodeChars ps) :
    isFormChar c = true := by
  rcases of_mem_intercalate h with rfl | ⟨u, hu, hc⟩
  · rfl
  · obtain ⟨p, -, rfl⟩ := List.mem_map.mp hu
    rcases List.mem_append.mp hc with hc | hc
    · exact (of_mem_encodeText hc).1
    · rcases List.mem_cons.mp hc with rfl | hc
      · rfl
      · exact (of_mem_encodeValue hc).1

end Search
end Outlier

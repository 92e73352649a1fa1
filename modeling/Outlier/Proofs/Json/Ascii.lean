import Outlier.Proofs.Json.RoundTrip
import Outlier.Proofs.Text.Ascii
import Outlier.Proofs.Text.Utf8

/-! Printed JSON is ASCII, and a value is read back from the bytes of its text. -/
namespace Outlier.Json

variable {d : Dialect} {n : Nat} {v : Value}

def IsAsciiRun (s : List Char) : Prop := ∀ c ∈ s, isAscii c = true

theorem isAsciiRun_of_all {s : List Char} (h : s.all isAscii = true) : IsAsciiRun s :=
  List.all_eq_true.mp h

theorem isAsciiRun_nil : IsAsciiRun [] := nofun

theorem isAsciiRun_append {s t : List Char} (hs : IsAsciiRun s) (ht : IsAsciiRun t) :
    IsAsciiRun (s ++ t) := by
  intro c hc
  rcases List.mem_append.mp hc with hc | hc
  · exact hs c hc
  · exact ht c hc

theorem isAsciiRun_cons {c : Char} {s : List Char} (hc : isAscii c = true) (hs : IsAsciiRun s) :
    IsAsciiRun (c :: s) := by
  rintro e he
  rcases List.mem_cons.mp he with rfl | he
  · exact hc
  · exact hs e he

theorem isAscii_digitChar : ∀ n < 16, isAscii n.digitChar = true := by decide

theorem isAsciiRun_ofInt (i : Int) : IsAsciiRun (Numeral.ofInt i) := by
  intro c hc
  rcases mem_ofInt hc with rfl | h
  · rfl
  · have hd : c.toNat ≤ 57 := by
      simp only [Char.isDigit, Bool.and_eq_true, decide_eq_true_eq] at h
      exact UInt32.le_iff_toNat_le.mp h.2
    simp only [isAscii, decide_eq_true_eq]
    omega

theorem isAsciiRun_unicodeEscape {n : Nat} (h : n < 0x10000) : IsAsciiRun (unicodeEscape n) := by
  have hdigit (k : Nat) (hk : k < 16) := isAscii_digitChar k hk
  rw [unicodeEscape, Quoted.hex_four h]
  refine isAsciiRun_cons rfl (isAsciiRun_cons rfl ?_)
  refine isAsciiRun_cons (hdigit _ (by omega)) (isAsciiRun_cons (hdigit _ (by omega)) ?_)
  exact isAsciiRun_cons (hdigit _ (by omega)) (isAsciiRun_cons (hdigit _ (by omega)) isAsciiRun_nil)

theorem isAscii_of_printable : ∀ p ∈ printable, isAscii p.2 = true := by decide

theorem isAsciiRun_printChar (c : Char) : IsAsciiRun (printChar c) := by
  unfold printChar
  cases hp : printable.lookup c with
  | some e =>
    have he := isAscii_of_printable (c, e) (mem_of_lookup hp)
    exact isAsciiRun_cons rfl (isAsciiRun_cons he isAsciiRun_nil)
  | none =>
    have hvalid := toNat_valid c
    simp only
    split
    · rename_i hc
      refine isAsciiRun_cons ?_ isAsciiRun_nil
      simp only [isAscii, decide_eq_true_eq]
      omega
    · split
      · rename_i hc
        exact isAsciiRun_unicodeEscape hc
      · refine isAsciiRun_append ?_ ?_
        · exact isAsciiRun_unicodeEscape (by omega)
        · exact isAsciiRun_unicodeEscape (by omega)

theorem isAsciiRun_printText (t : String) : IsAsciiRun (printText t) := by
  refine isAsciiRun_append (isAsciiRun_cons rfl ?_) (isAsciiRun_cons rfl isAsciiRun_nil)
  intro c hc
  obtain ⟨e, -, he⟩ := List.mem_flatMap.mp hc
  exact isAsciiRun_printChar e c he

theorem isAsciiRun_printItems {items : List Value} (h : ∀ v ∈ items, IsAsciiRun (print v)) :
    IsAsciiRun (printItems items) := by
  induction items with
  | nil => exact isAsciiRun_nil
  | cons v items ih =>
    have hv := h v List.mem_cons_self
    cases items with
    | nil => exact hv
    | cons w items =>
      have hrest := ih fun u hu => h u (List.mem_cons_of_mem v hu)
      exact isAsciiRun_append hv (isAsciiRun_cons rfl (isAsciiRun_cons rfl hrest))

theorem isAsciiRun_printMembers {members : Pairs Value}
    (h : ∀ p ∈ members, IsAsciiRun (print p.2)) :
    IsAsciiRun (printMembers members) := by
  induction members with
  | nil => exact isAsciiRun_nil
  | cons p members ih =>
    obtain ⟨k, v⟩ := p
    have hk := isAsciiRun_printText k
    have hv := h (k, v) List.mem_cons_self
    cases members with
    | nil => exact isAsciiRun_append hk (isAsciiRun_cons rfl (isAsciiRun_cons rfl hv))
    | cons p members =>
      have hrest := ih fun u hu => h u (List.mem_cons_of_mem _ hu)
      refine isAsciiRun_append ?_ (isAsciiRun_cons rfl (isAsciiRun_cons rfl hrest))
      exact isAsciiRun_append hk (isAsciiRun_cons rfl (isAsciiRun_cons rfl hv))

theorem isAsciiRun_print (h : Readable d n v) : IsAsciiRun (print v) := by
  induction h with
  | null h => exact isAsciiRun_of_all rfl
  | @bool n b h =>
    cases b
    · exact isAsciiRun_of_all rfl
    · exact isAsciiRun_of_all rfl
  | @int n i h hf => exact isAsciiRun_ofInt i
  | @text n t h => exact isAsciiRun_printText t
  | list h hi ih =>
    refine isAsciiRun_append (isAsciiRun_cons rfl ?_) (isAsciiRun_cons rfl isAsciiRun_nil)
    exact isAsciiRun_printItems ih
  | object h hk hv ih =>
    refine isAsciiRun_append (isAsciiRun_cons rfl ?_) (isAsciiRun_cons rfl isAsciiRun_nil)
    exact isAsciiRun_printMembers ih

theorem toList_text (v : Value) : (text v).toList = print v := String.toList_ofList

theorem readBytes?_encode (s : String) :
    readBytes? (Utf8.encode s) = readChars? strict s.toList := by
  rw [readBytes?, Utf8.encode, Utf8.decodeChars?_encodeChars]
  rfl

/-- A value is read back from the bytes of its text. -/
theorem readBytes?_encode_text (h : Readable strict 0 v) :
    readBytes? (Utf8.encode (text v)) = some v := by
  rw [readBytes?_encode, toList_text]
  exact readChars?_print h

end Outlier.Json

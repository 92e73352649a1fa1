import Outlier.Journal.Excerpt
import Outlier.Proofs.Number.Written
import Outlier.Proofs.Text.Malformed

/-! How long excerpts are, and what they show. A body of any length takes up to 500 characters, and
the marker that counts the rest. Bytes are shown as the text they are read as. -/
namespace Outlier

namespace Utf8

/-- What a state still owes the text: the part that it is in. -/
def State.owed : State → Nat
  | .start => 0
  | .within .. => 1

theorem length_opening (b : UInt8) : (opening b).1.length + (opening b).2.owed ≤ 1 := by
  unfold opening
  repeat' split
  all_goals exact Nat.le_refl _

theorem length_step (s : State) (b : UInt8) :
    (step s b).1.length + (step s b).2.owed ≤ s.owed + 1 := by
  cases s with
  | start => exact length_opening b
  | within payload lo hi due =>
    rw [step]
    split
    · cases due <;> exact Nat.le_succ 1
    · have hopening := length_opening b
      show (opening b).1.length + 1 + (opening b).2.owed ≤ 1 + 1
      omega

theorem length_scan (s : State) (bs : List UInt8) : (scan s bs).length ≤ s.owed + bs.length := by
  induction bs generalizing s with
  | nil => cases s <;> exact Nat.le_refl _
  | cons b bs ih =>
    have hstep := length_step s b
    have hrest := ih (step s b).2
    rw [scan, List.length_append, List.length_cons]
    omega

/-- A text has at most as many characters as its bytes. -/
theorem length_lossyChars (bs : List UInt8) : (lossyChars bs).length ≤ bs.length := by
  rw [lossyChars, List.length_map, ← Nat.zero_add bs.length]
  exact length_scan .start bs

theorem lossyChars_replicate (n : Nat) :
    lossyChars (List.replicate n 0x78) = List.replicate n 'x' := by
  induction n with
  | zero => rfl
  | succ n ih =>
    rw [List.replicate_succ, List.replicate_succ, ← ih]
    rfl

end Utf8

namespace Excerpt

theorem length_marker (total : Nat) : (marker total).length = 23 + Decimal.digitCount total := by
  have hopen : "... (truncated, ".toList.length = 16 := rfl
  have hclose : " total)".toList.length = 7 := rfl
  unfold marker Decimal.digitCount
  generalize Nat.toDigits 10 total = digits
  rw [List.length_append, List.length_append, hopen, hclose]
  omega

theorem length_ofChars (s : List Char) :
    (ofChars standard s).length ≤ 523 + Decimal.digitCount s.length := by
  have hstandard : standard.toNat = 500 := rfl
  have hcut : (cut standard s).length ≤ 500 := by
    rw [cut, if_neg (by decide), hstandard]
    exact List.length_take_le 500 s
  by_cases h : standard < s.length
  · rw [ofChars, if_pos h, List.length_append, length_marker]
    omega
  · rw [ofChars, if_neg h]
    omega

/-- The excerpt of a body is bounded but for the digits of its length. -/
theorem length_ofBody {body : List UInt8} {size : Nat} (h : body.length ≤ size) :
    (ofBody body).length ≤ 523 + Decimal.digitCount size := by
  have hlength := Nat.le_trans (Utf8.length_lossyChars body) h
  have hchars := length_ofChars (Utf8.lossyChars body)
  have hdigits := Decimal.digitCount_le hlength
  have hbody : (ofBody body).length = (ofChars standard (Utf8.lossyChars body)).length :=
    String.length_ofList
  omega

theorem ofList_marker (total : Nat) :
    String.ofList (marker total) = "... (truncated, " ++ toString total ++ " total)" := by
  have hdigits : String.ofList (Nat.toDigits 10 total) = toString total := rfl
  unfold marker
  rw [String.ofList_append, String.ofList_append, hdigits]
  generalize toString total = digits
  rw [String.ofList_toList, String.ofList_toList]

/-- With a limit of zero or more, a text is whole or cut to the limit. -/
theorem ofChars_natCast (limit : Nat) (s : List Char) : String.ofList (ofChars limit s) =
    if s.length ≤ limit then String.ofList s
    else String.ofList (s.take limit) ++
      ("... (truncated, " ++ toString s.length ++ " total)") := by
  by_cases h : s.length ≤ limit
  · rw [ofChars, if_neg (by omega), if_pos h]
  · rw [ofChars, if_pos (by omega), if_neg h, cut, if_neg (by omega), Int.toNat_natCast,
      String.ofList_append, ofList_marker]

/-- The bytes of a text are excerpted as the text. -/
theorem ofValue_encode (limit : Int) (s : String) :
    ofValue limit (.bytes (Utf8.encode s)) = ofValue limit (.text s) := by
  have hsource : source (.bytes (Utf8.encode s)) = source (.text s) := Utf8.lossyChars_encode s
  rw [ofValue, ofValue, hsource] <;> nofun

/-- The bytes of a text are shown as the text is. Any bytes have one text, of no more characters
than bytes, which is shown whole or cut and counted; a whole text before them stays as it is. -/
theorem shown_as_read :
    (∀ (limit : Int) (s : String),
      ofValue limit (.bytes (Utf8.encode s)) = ofValue limit (.text s)) ∧
    ∀ bs : List UInt8, ∃ text : List Char,
      (∀ other, Utf8.Reads bs other ↔ other = text) ∧
      text.length ≤ bs.length ∧
      (∀ limit : Nat, ofValue limit (.bytes bs) =
        if text.length ≤ limit then String.ofList text
        else String.ofList (text.take limit) ++
          ("... (truncated, " ++ toString text.length ++ " total)")) ∧
      ∀ s other, Utf8.Reads (Utf8.encode s ++ bs) other ↔ other = s.toList ++ text := by
  refine ⟨ofValue_encode, fun bs => ⟨Utf8.lossyChars bs, fun _ => Utf8.reads_iff,
    Utf8.length_lossyChars bs, fun limit => ?_, fun s other => ?_⟩⟩
  · exact ofChars_natCast limit (Utf8.lossyChars bs)
  · rw [Utf8.reads_iff, Utf8.encode, Utf8.lossyChars_encodeChars]

/-- A character of three bytes that lacks its last is one malformed part. -/
example : ofValue 2 (.bytes [0x61, 0xE2, 0x82, 0x62]) = "a\uFFFD... (truncated, 3 total)" := by
  decide

end Excerpt
end Outlier

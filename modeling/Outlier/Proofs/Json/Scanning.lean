import Outlier.Json.Printer
import Outlier.Json.Reader
import Outlier.Proofs.Number.Written

/-! Scanning what is printed: words and strings come back as the scalars that they were. -/
namespace Outlier.Json

variable {d : Dialect} {b : Build} {s rest : List Char} {v : Value}

/-- What a reader that stands somewhere makes of all the characters that are left. -/
def complete (d : Dialect) (r : Reading) (s : List Char) : Option Value :=
  s.foldlM (readStep d) r >>= readEnd d

/-- What it makes of them after one more token. -/
def completeAfter (d : Dialect) (b : Build) (t : Token) (s : List Char) : Option Value :=
  (buildStep d b t).bind fun b => complete d ⟨.between, b⟩ s

theorem complete_cons (r : Reading) (c : Char) (s : List Char) :
    complete d r (c :: s) = (readStep d r c).bind fun r => complete d r s := by
  simp [complete, List.foldlM_cons, Option.bind_assoc]

/-- A character that gives no token only moves the scan on. -/
theorem complete_of_scan {scan next : Scan} {c : Char} (h : scanStep d scan c = some ([], next)) :
    complete d ⟨scan, b⟩ (c :: s) = complete d ⟨next, b⟩ s := by
  rw [complete_cons, readStep, h]
  rfl

theorem complete_of_token {scan : Scan} {c : Char} {t : Token}
    (h : scanStep d scan c = some ([t], .between)) :
    complete d ⟨scan, b⟩ (c :: s) = completeAfter d b t s := by
  rw [complete_cons, readStep, h, completeAfter]
  cases hb : buildStep d b t <;> simp [hb]

/-! Words. -/

/-- Nothing is left, or else what is left ends a word. -/
def Follows (rest : List Char) : Prop := ∀ c t, rest = c :: t → endsWord c = true

theorem complete_word (held : List Char) (h : ∀ c ∈ s, endsWord c = false) :
    complete d ⟨.word held, b⟩ (s ++ rest) = complete d ⟨.word (s.reverse ++ held), b⟩ rest := by
  induction s generalizing held with
  | nil => rfl
  | cons c s ih =>
    have hc : scanStep d (.word held) c = some ([], .word (c :: held)) := by
      simp [scanStep, h c List.mem_cons_self]
    rw [List.cons_append, complete_of_scan hc, ih _ fun e he => h e (List.mem_cons_of_mem _ he)]
    simp

theorem complete_word_end {held : List Char} (hr : Follows rest) :
    complete d ⟨.word held, b⟩ rest =
      (word? d held.reverse).bind fun v => completeAfter d b (.scalar v) rest := by
  cases rest with
  | nil =>
    simp only [complete, completeAfter, List.foldlM_nil, pure_bind, readEnd, scanEnd]
    cases word? d held.reverse with
    | none => rfl
    | some v => cases hb : buildStep d b (.scalar v) <;> simp [hb]
  | cons c t =>
    have hc : endsWord c = true := hr c t rfl
    simp only [completeAfter, complete_cons, readStep, scanStep, hc]
    cases word? d held.reverse with
    | none => rfl
    | some v => cases hb : buildStep d b (.scalar v) <;> simp [hb]

theorem begin?_of_not_endsWord {c : Char} (h : endsWord c = false) :
    begin? c = ([], .word [c]) := by
  simp only [endsWord, Bool.or_eq_false_iff] at h
  obtain ⟨⟨hg, hq⟩, hp⟩ := h
  have hq : c ≠ '"' := by simpa using hq
  have hp : punctuation.lookup c = none := by simpa using hp
  simp [begin?, hg, hq, hp]

theorem complete_between_word (hs : s ≠ []) (h : ∀ c ∈ s, endsWord c = false)
    (hr : Follows rest) :
    complete d ⟨.between, b⟩ (s ++ rest) =
      (word? d s).bind fun v => completeAfter d b (.scalar v) rest := by
  cases s with
  | nil => exact absurd rfl hs
  | cons c s =>
    have hc : scanStep d .between c = some ([], .word [c]) := by
      rw [scanStep, begin?_of_not_endsWord (h c List.mem_cons_self)]
    have hw : (s.reverse ++ [c]).reverse = c :: s := by simp
    rw [List.cons_append, complete_of_scan hc,
      complete_word _ fun e he => h e (List.mem_cons_of_mem _ he), complete_word_end hr, hw]

/-! Integers. -/

theorem mem_of_endsWord {c : Char} (h : endsWord c = true) :
    c ∈ [' ', '\t', '\n', '\r', '"', '[', ']', '\x7b', '\x7d', ',', ':'] := by
  simp only [endsWord, isGap, Bool.or_eq_true, beq_iff_eq, List.lookup_isSome_iff, punctuation] at h
  simpa [or_assoc] using h

theorem endsWord_of_isDigit {c : Char} (h : c.isDigit = true) : endsWord c = false := by
  have hno : [' ', '\t', '\n', '\r', '"', '[', ']', '\x7b', '\x7d', ',', ':'].any Char.isDigit =
      false := rfl
  cases he : endsWord c with
  | false => rfl
  | true => exact absurd h (List.any_eq_false.mp hno c (mem_of_endsWord he))

theorem mem_ofInt {n : Int} {c : Char} (h : c ∈ Numeral.ofInt n) : c = '-' ∨ c.isDigit = true := by
  unfold Numeral.ofInt at h
  split at h
  · rcases List.mem_cons.mp h with rfl | h
    · exact .inl rfl
    · exact .inr (Numeral.isDigit_of_mem_toDigits h)
  · exact .inr (Numeral.isDigit_of_mem_toDigits h)

theorem ofInt_ne_nil (n : Int) : Numeral.ofInt n ≠ [] := by
  unfold Numeral.ofInt
  split
  · exact List.cons_ne_nil _ _
  · exact Nat.toDigits_ne_nil

theorem any_endsWord_ofInt (n : Int) : (Numeral.ofInt n).any endsWord = false := by
  rw [List.any_eq_false]
  intro c hc
  rcases mem_ofInt hc with rfl | h
  · exact Bool.false_ne_true
  · rw [endsWord_of_isDigit h]
    exact Bool.false_ne_true

/-- Every word has a letter, and no integer has one. -/
theorem words_lookup_ofInt (n : Int) : words.lookup (String.ofList (Numeral.ofInt n)) = none := by
  have hletter : (words.all fun p => p.1.toList.any fun c => c != '-' && !c.isDigit) = true := rfl
  rw [List.lookup_eq_none_iff]
  intro p hp
  rw [bne_iff_ne]
  rintro he
  obtain ⟨c, hc, hno⟩ := List.any_eq_true.mp (List.all_eq_true.mp hletter p hp)
  rw [← he, String.toList_ofList] at hc
  rcases mem_ofInt hc with rfl | h
  · cases hno
  · simp [h] at hno

theorem number?_toDigits (n : Nat) (negative : Bool) :
    number? d negative (Nat.toDigits 10 n) =
      if d.fits ⟨Nat.toDigits 10 n, none, none⟩ then some (.int (Binary.signed negative n))
      else none := by
  have hd := Numeral.ofChars?_of_isDigit fun c (h : c ∈ Nat.toDigits 10 n) =>
    Numeral.isDigit_of_mem_toDigits h
  have hn : Numeral.natOf (Nat.toDigits 10 n ++ []) = n := by
    rw [List.append_nil, Numeral.natOf_toDigits]
  rw [number?, hd, Option.bind_eq_bind, Option.bind_some, Numeral.isStrict_toDigits, Bool.true_and]
  cases d.fits ⟨Nat.toDigits 10 n, none, none⟩ with
  | false => rfl
  | true => exact congrArg (fun m => some (Value.int (Binary.signed negative m))) hn

/-- An integer is read if the dialect has room for it. -/
theorem word?_ofInt (n : Int) :
    word? d (Numeral.ofInt n) =
      if d.fits ⟨Nat.toDigits 10 n.natAbs, none, none⟩ then some (.int n) else none := by
  unfold word?
  rw [words_lookup_ofInt]
  by_cases hn : n < 0
  · have hs : Binary.signed true n.natAbs = n := by
      rw [Binary.signed, if_pos rfl]
      omega
    simp only [Numeral.ofInt, if_pos hn, number?_toDigits, hs]
  · have hs : Binary.signed false n.natAbs = n := by
      rw [Binary.signed, if_neg (by decide)]
      omega
    simp only [Numeral.ofInt, if_neg hn]
    split
    · rename_i t ht
      have hm := Numeral.isDigit_of_mem_toDigits (n := n.natAbs) (ht ▸ List.mem_cons_self)
      cases hm
    · rw [number?_toDigits, hs]

/-! Strings. -/

theorem hexDigit?_digitChar : ∀ n < 16, hexDigit? n.digitChar = some n := by decide

theorem complete_unicodeEscape {n : Nat} (h : n < 0x10000) (codes : List Nat) :
    complete d ⟨.string codes, b⟩ (unicodeEscape n ++ s) =
      complete d ⟨.string (n :: codes), b⟩ s := by
  have hdigit (left value k : Nat) (hk : k < 16) :
      scanStep d (.unicode codes (left + 1) value) k.digitChar =
        some ([], .unicode codes left (value * 16 + k)) := by
    simp [scanStep, hexDigit?_digitChar k hk]
  have hlast (value k : Nat) (hk : k < 16) :
      scanStep d (.unicode codes 0 value) k.digitChar =
        some ([], .string ((value * 16 + k) :: codes)) := by
    simp [scanStep, hexDigit?_digitChar k hk]
  have hn : (((0 * 16 + n / 16 / 16 / 16) * 16 + n / 16 / 16 % 16) * 16 + n / 16 % 16) * 16 +
      n % 16 = n := by omega
  have hopen : scanStep d (.string codes) '\\' = some ([], .escape codes) := rfl
  have hu : scanStep d (.escape codes) 'u' = some ([], .unicode codes 3 0) := rfl
  rw [unicodeEscape, Quoted.hex_four h]
  simp only [List.cons_append, List.nil_append]
  rw [complete_of_scan hopen, complete_of_scan hu, complete_of_scan (hdigit _ _ _ (by omega)),
    complete_of_scan (hdigit _ _ _ (by omega)), complete_of_scan (hdigit _ _ _ (by omega)),
    complete_of_scan (hlast _ _ (by omega)), hn]

/-- The codes that a character is written with: two for one above U+FFFF. -/
def codesOf (c : Char) : List Nat :=
  if c.toNat < 0x10000 then [c.toNat]
  else [0xD800 + (c.toNat - 0x10000) / 0x400, 0xDC00 + (c.toNat - 0x10000) % 0x400]

theorem toNat_valid (c : Char) :
    c.toNat < 0xD800 ∨ 0xDFFF < c.toNat ∧ c.toNat < 0x110000 := c.valid

theorem escapes_of_printable :
    ∀ p ∈ printable, p.2 ≠ 'u' ∧ escapes.lookup p.2 = some p.1.toNat ∧ p.1.toNat < 0x10000 := by
  decide

theorem complete_printChar (c : Char) (codes : List Nat) :
    complete d ⟨.string codes, b⟩ (printChar c ++ s) =
      complete d ⟨.string ((codesOf c).reverse ++ codes), b⟩ s := by
  unfold printChar
  cases hp : printable.lookup c with
  | some e =>
    obtain ⟨hu, he, hc⟩ := escapes_of_printable _ (mem_of_lookup hp)
    have hopen : scanStep d (.string codes) '\\' = some ([], .escape codes) := rfl
    have hesc : scanStep d (.escape codes) e = some ([], .string (c.toNat :: codes)) := by
      simp [scanStep, hu, he]
    simp only [List.cons_append, List.nil_append, complete_of_scan hopen, complete_of_scan hesc,
      codesOf, if_pos hc, List.reverse_singleton]
  | none =>
    have hquote : c ≠ '"' := by rintro rfl; cases hp
    have hslash : c ≠ '\\' := by rintro rfl; cases hp
    simp only
    split
    · rename_i hc
      have hstep : scanStep d (.string codes) c = some ([], .string (c.toNat :: codes)) := by
        simp [scanStep, hquote, hslash, hc.1]
      rw [List.singleton_append, complete_of_scan hstep, codesOf, if_pos (by omega)]
      rfl
    · split
      · rename_i hc
        rw [complete_unicodeEscape hc, codesOf, if_pos hc]
        rfl
      · rename_i hc
        have hvalid := toNat_valid c
        rw [List.append_assoc, complete_unicodeEscape (by omega), complete_unicodeEscape (by omega),
          codesOf, if_neg hc]
        rfl

theorem complete_printChars (t : List Char) (codes : List Nat) :
    complete d ⟨.string codes, b⟩ (t.flatMap printChar ++ s) =
      complete d ⟨.string ((t.flatMap codesOf).reverse ++ codes), b⟩ s := by
  induction t generalizing codes with
  | nil => rfl
  | cons c t ih =>
    rw [List.flatMap_cons, List.append_assoc, complete_printChar, ih, List.flatMap_cons]
    simp

theorem joined_cons_of_not_high {n : Nat} (h : isHigh n = false) (codes : List Nat) :
    joined (n :: codes) = n :: joined codes := by
  cases codes with
  | nil => rfl
  | cons m codes => simp [joined, h]

theorem joined_cons_cons {hi lo : Nat} (hh : isHigh hi = true) (hl : isLow lo = true)
    (codes : List Nat) : joined (hi :: lo :: codes) = pair hi lo :: joined codes := by
  rw [joined, hh, hl]
  rfl

/-- No character is half of a surrogate pair. -/
theorem not_surrogate (c : Char) : (isHigh c.toNat || isLow c.toNat) = false := by
  have hvalid := toNat_valid c
  simp only [isHigh, isLow, Bool.or_eq_false_iff, Bool.and_eq_false_iff, decide_eq_false_iff_not]
  omega

theorem joined_codesOf (t : List Char) : joined (t.flatMap codesOf) = t.map Char.toNat := by
  induction t with
  | nil => rfl
  | cons c t ih =>
    rw [List.flatMap_cons, List.map_cons, ← ih]
    unfold codesOf
    by_cases hc : c.toNat < 0x10000
    · rw [if_pos hc]
      exact joined_cons_of_not_high (Bool.or_eq_false_iff.mp (not_surrogate c)).1 _
    · have hvalid := toNat_valid c
      have hhi : isHigh (0xD800 + (c.toNat - 0x10000) / 0x400) = true := by
        simp only [isHigh, Bool.and_eq_true, decide_eq_true_eq]
        omega
      have hlo : isLow (0xDC00 + (c.toNat - 0x10000) % 0x400) = true := by
        simp only [isLow, Bool.and_eq_true, decide_eq_true_eq]
        omega
      have hpair : pair (0xD800 + (c.toNat - 0x10000) / 0x400)
          (0xDC00 + (c.toNat - 0x10000) % 0x400) = c.toNat := by
        unfold pair
        omega
      have hjoined := joined_cons_cons hhi hlo (t.flatMap codesOf)
      rw [hpair] at hjoined
      rw [if_neg hc]
      exact hjoined

theorem string?_codesOf (t : String) : string? d (t.toList.flatMap codesOf) = some (.text t) := by
  have hno : ((t.toList.map Char.toNat).any fun n => isHigh n || isLow n) = false := by
    rw [List.any_eq_false]
    intro n hn
    obtain ⟨c, -, rfl⟩ := List.mem_map.mp hn
    rw [not_surrogate c]
    exact Bool.false_ne_true
  simp [string?, joined_codesOf, hno, Function.comp_def]

theorem complete_printText (t : String) :
    complete d ⟨.between, b⟩ (printText t ++ s) = completeAfter d b (.scalar (.text t)) s := by
  have hopen : scanStep d .between '"' = some ([], .string []) := rfl
  have hclose : scanStep d (.string (t.toList.flatMap codesOf).reverse) '"' =
      some ([.scalar (.text t)], .between) := by
    simp [scanStep, string?_codesOf]
  rw [printText, List.append_assoc, List.cons_append, complete_of_scan hopen, complete_printChars,
    List.append_nil, List.singleton_append, complete_of_token hclose]

end Outlier.Json

import Outlier.Proofs.Text.Utf8

/-! What is read from any bytes: characters, and a replacement for each malformed part. A part goes
as far as the bytes of some character would, and has one byte at least. -/
namespace Outlier.Utf8

/-- What the bytes of a character begin with. -/
def IsBeginning (u : List UInt8) : Prop := ∃ c : Char, u <+: String.utf8EncodeChar c

/-- A malformed part and the bytes after it: no character comes there, and the part is a longest
beginning of one, or a byte that none begins with. -/
structure IsMalformed (u bs : List UInt8) : Prop where
  part : u.length = 1 ∨ u ≠ [] ∧ IsBeginning u
  longest : ∀ b rest, bs = b :: rest → ¬ IsBeginning (u ++ [b])
  no_char (c : Char) : ¬ String.utf8EncodeChar c <+: u ++ bs

/-- Bytes as text, with a replacement for each malformed part. -/
inductive Reads : List UInt8 → List Char → Prop
  | nil : Reads [] []
  | char {bs : List UInt8} {s : List Char} (c : Char) (h : Reads bs s) :
    Reads (String.utf8EncodeChar c ++ bs) (c :: s)
  | malformed {u bs : List UInt8} {s : List Char} (hu : IsMalformed u bs) (h : Reads bs s) :
    Reads (u ++ bs) ('\uFFFD' :: s)

variable {a b d e lo hi : UInt8} {u v bs : List UInt8} {due n : Nat}

/-! Which bytes are those of a character. -/

theorem encodeChar_ofNat (h : n.isValidChar) : String.utf8EncodeChar (Char.ofNat n) =
    if n ≤ 0x7F then [UInt8.ofNat n]
    else if n ≤ 0x7FF then [UInt8.ofNat (n / 64 % 32 + 192), UInt8.ofNat (n % 64 + 128)]
    else if n ≤ 0xFFFF then [UInt8.ofNat (n / 4096 % 16 + 224), UInt8.ofNat (n / 64 % 64 + 128),
      UInt8.ofNat (n % 64 + 128)]
    else [UInt8.ofNat (n / 262144 % 8 + 240), UInt8.ofNat (n / 4096 % 64 + 128),
      UInt8.ofNat (n / 64 % 64 + 128), UInt8.ofNat (n % 64 + 128)] := by
  have hc : (Char.ofNat n).val.toNat = n := by
    rw [Char.ofNat, dif_pos h]
    rfl
  rw [String.utf8EncodeChar, hc]

theorem ofNat_eq (h : n = a.toNat) : UInt8.ofNat n = a := by rw [h, UInt8.ofNat_toNat]

theorem exists_encodeChar_one (ha : a.toNat < 0x80) : ∃ c, String.utf8EncodeChar c = [a] := by
  refine ⟨Char.ofNat a.toNat, ?_⟩
  rw [encodeChar_ofNat (.inl (by omega)), if_pos (by omega), ofNat_eq rfl]

theorem exists_encodeChar_two (ha : 0xC2 ≤ a.toNat) (ha' : a.toNat < 0xE0) (hb : 0x80 ≤ b.toNat)
    (hb' : b.toNat ≤ 0xBF) : ∃ c, String.utf8EncodeChar c = [a, b] := by
  refine ⟨Char.ofNat ((a.toNat - 0xC0) * 64 + (b.toNat - 0x80)), ?_⟩
  rw [encodeChar_ofNat (.inl (by omega)), if_neg (by omega), if_pos (by omega),
    ofNat_eq (a := a) (by omega), ofNat_eq (a := b) (by omega)]

/-- The range of the second byte shuts out overlong forms and surrogates. -/
theorem exists_encodeChar_three (ha : 0xE0 ≤ a.toNat) (ha' : a.toNat < 0xF0)
    (hb : 0xA0 ≤ b.toNat ∨ a.toNat ≠ 0xE0 ∧ 0x80 ≤ b.toNat)
    (hb' : b.toNat ≤ 0x9F ∨ a.toNat ≠ 0xED ∧ b.toNat ≤ 0xBF)
    (hd : 0x80 ≤ d.toNat) (hd' : d.toNat ≤ 0xBF) : ∃ c, String.utf8EncodeChar c = [a, b, d] := by
  refine ⟨Char.ofNat ((a.toNat - 0xE0) * 4096 + (b.toNat - 0x80) * 64 + (d.toNat - 0x80)), ?_⟩
  rw [encodeChar_ofNat (by unfold Nat.isValidChar; omega), if_neg (by omega), if_neg (by omega),
    if_pos (by omega), ofNat_eq (a := a) (by omega), ofNat_eq (a := b) (by omega),
    ofNat_eq (a := d) (by omega)]

theorem exists_encodeChar_four (ha : 0xF0 ≤ a.toNat) (ha' : a.toNat < 0xF5)
    (hb : 0x90 ≤ b.toNat ∨ a.toNat ≠ 0xF0 ∧ 0x80 ≤ b.toNat)
    (hb' : b.toNat ≤ 0x8F ∨ a.toNat ≠ 0xF4 ∧ b.toNat ≤ 0xBF)
    (hd : 0x80 ≤ d.toNat) (hd' : d.toNat ≤ 0xBF) (he : 0x80 ≤ e.toNat) (he' : e.toNat ≤ 0xBF) :
    ∃ c, String.utf8EncodeChar c = [a, b, d, e] := by
  refine ⟨Char.ofNat ((a.toNat - 0xF0) * 262144 + (b.toNat - 0x80) * 4096 + (d.toNat - 0x80) * 64 +
    (e.toNat - 0x80)), ?_⟩
  rw [encodeChar_ofNat (by unfold Nat.isValidChar; omega), if_neg (by omega), if_neg (by omega),
    if_neg (by omega), ofNat_eq (a := a) (by omega), ofNat_eq (a := b) (by omega),
    ofNat_eq (a := d) (by omega), ofNat_eq (a := e) (by omega)]

/-! The bytes that lead into a character, with the range of the next one and how many are due after
that. -/

inductive Begins (a : UInt8) : UInt8 → UInt8 → Nat → Prop
  | two (h : 0xC2 ≤ a.toNat) (h' : a.toNat < 0xE0) : Begins a 0x80 0xBF 0
  | three (h : 0xE0 ≤ a.toNat) (h' : a.toNat < 0xF0) :
    Begins a (if a = 0xE0 then 0xA0 else 0x80) (if a = 0xED then 0x9F else 0xBF) 1
  | four (h : 0xF0 ≤ a.toNat) (h' : a.toNat < 0xF5) :
    Begins a (if a = 0xF0 then 0x90 else 0x80) (if a = 0xF4 then 0x8F else 0xBF) 2

inductive Leads : List UInt8 → UInt8 → UInt8 → Nat → Prop
  | first {a lo hi : UInt8} {due : Nat} (h : Begins a lo hi due) : Leads [a] lo hi due
  | next {u : List UInt8} {lo hi b : UInt8} {due : Nat} (h : Leads u lo hi (due + 1)) (hlo : lo ≤ b)
    (hhi : b ≤ hi) : Leads (u ++ [b]) 0x80 0xBF due

theorem toNat_of_full (hlo : 0x80 ≤ b) (hhi : b ≤ 0xBF) : 0x80 ≤ b.toNat ∧ b.toNat ≤ 0xBF :=
  ⟨by simpa using UInt8.le_iff_toNat_le.mp hlo, by simpa using UInt8.le_iff_toNat_le.mp hhi⟩

theorem toNat_of_ite_le {k x y : UInt8} (h : (if a = k then x else y) ≤ b) :
    x.toNat ≤ b.toNat ∨ a.toNat ≠ k.toNat ∧ y.toNat ≤ b.toNat := by
  split at h
  next => exact .inl (UInt8.le_iff_toNat_le.mp h)
  next hne => exact .inr ⟨fun he => hne (UInt8.toNat_inj.mp he), UInt8.le_iff_toNat_le.mp h⟩

theorem toNat_of_le_ite {k x y : UInt8} (h : b ≤ if a = k then x else y) :
    b.toNat ≤ x.toNat ∨ a.toNat ≠ k.toNat ∧ b.toNat ≤ y.toNat := by
  split at h
  next => exact .inl (UInt8.le_iff_toNat_le.mp h)
  next hne => exact .inr ⟨fun he => hne (UInt8.toNat_inj.mp he), UInt8.le_iff_toNat_le.mp h⟩

theorem Leads.ne_nil (h : Leads u lo hi due) : u ≠ [] := by
  cases h <;> simp

theorem Begins.due_le (h : Begins a lo hi due) : due ≤ 2 := by
  cases h <;> decide

theorem Leads.due_le (h : Leads u lo hi due) : due ≤ 2 := by
  induction h with
  | first h => exact h.due_le
  | next _ _ _ ih => exact Nat.le_of_succ_le ih

/-- The range of the next byte is never empty. -/
theorem Begins.le (h : Begins a lo hi due) : lo ≤ hi := by
  cases h with
  | two => decide
  | three =>
    by_cases ha : a = 0xE0
    · subst ha; decide
    · rw [if_neg ha]; split <;> decide
  | four =>
    by_cases ha : a = 0xF0
    · subst ha; decide
    · rw [if_neg ha]; split <;> decide

theorem Leads.le (h : Leads u lo hi due) : lo ≤ hi := by
  cases h with
  | first h => exact h.le
  | next => decide

/-- The last byte that is due completes the bytes of a character. -/
theorem Leads.complete (h : Leads u lo hi 0) (hlo : lo ≤ b) (hhi : b ≤ hi) :
    ∃ c, String.utf8EncodeChar c = u ++ [b] := by
  -- The first byte tells how many are due, so that the bytes are two, three or four in all.
  cases h with
  | first h => cases h with
    | two ha ha' =>
      obtain ⟨hb, hb'⟩ := toNat_of_full hlo hhi
      exact exists_encodeChar_two ha ha' hb hb'
  | next h hlo' hhi' =>
    obtain ⟨hb, hb'⟩ := toNat_of_full hlo hhi
    cases h with
    | first h => cases h with
      | three ha ha' =>
        exact exists_encodeChar_three ha ha' (by simpa using toNat_of_ite_le hlo')
          (by simpa using toNat_of_le_ite hhi') hb hb'
    | next h hlo'' hhi'' =>
      obtain ⟨hd, hd'⟩ := toNat_of_full hlo' hhi'
      cases h with
      | first h => cases h with
        | four ha ha' =>
          exact exists_encodeChar_four ha ha' (by simpa using toNat_of_ite_le hlo'')
            (by simpa using toNat_of_le_ite hhi'') hd hd' hb hb'
      | next h => exact absurd h.due_le (by decide)

/-- All bytes that lead into a character are what one begins with. -/
theorem Leads.isBeginning (h : Leads u lo hi due) : IsBeginning u := by
  induction due generalizing u lo hi with
  | zero =>
    obtain ⟨c, hc⟩ := h.complete (UInt8.le_refl lo) h.le
    exact ⟨c, [lo], hc.symm⟩
  | succ due ih =>
    obtain ⟨c, hc⟩ := ih (h.next (UInt8.le_refl lo) h.le)
    exact ⟨c, (List.prefix_append u [lo]).trans hc⟩

/-! How bytes are read one at a time. -/

/-- A first byte is a character, is malformed or leads into a character. -/
theorem opening_cases (a : UInt8) :
    (∃ c, String.utf8EncodeChar c = [a]) ∨ opening a = ([none], .start) ∨
    ∃ payload lo hi due, Begins a lo hi due ∧ opening a = ([], .within payload lo hi due) := by
  have hlt {b : UInt8} (h : a < b) : a.toNat < b.toNat := UInt8.lt_iff_toNat_lt.mp h
  have hle {b : UInt8} (h : ¬ a < b) : b.toNat ≤ a.toNat :=
    UInt8.le_iff_toNat_le.mp (UInt8.not_lt.mp h)
  unfold opening
  split
  next h => exact .inl (exists_encodeChar_one (hlt h))
  split
  next => exact .inr (.inl rfl)
  next hlow =>
  split
  next h => exact .inr (.inr ⟨_, _, _, _, .two (hle hlow) (hlt h), rfl⟩)
  next htwo =>
  split
  next h => exact .inr (.inr ⟨_, _, _, _, .three (hle htwo) (hlt h), rfl⟩)
  next hthree =>
  split
  next h => exact .inr (.inr ⟨_, _, _, _, .four (hle hthree) (hlt h), rfl⟩)
  next => exact .inr (.inl rfl)

theorem lossyChars_encodeChar (c : Char) (bs : List UInt8) :
    lossyChars (String.utf8EncodeChar c ++ bs) = c :: lossyChars bs := by
  rw [lossyChars, scan_encodeChar]
  rfl

theorem lossyChars_encodeChars (s : List Char) (bs : List UInt8) :
    lossyChars (encodeChars s ++ bs) = s ++ lossyChars bs := by
  induction s with
  | nil => rfl
  | cons c s ih =>
    rw [encodeChars, List.flatMap_cons, List.append_assoc, lossyChars_encodeChar, ← encodeChars, ih]
    rfl

theorem lossyChars_encode (s : String) : lossyChars (encode s) = s.toList := by
  have h := lossyChars_encodeChars s.toList []
  rwa [List.append_nil, show lossyChars [] = [] from rfl, List.append_nil] at h

theorem not_encodeChar_prefix {out : Output} (h : scan .start bs = none :: out) (c : Char) :
    ¬ String.utf8EncodeChar c <+: bs := by
  rintro ⟨rest, rfl⟩
  rw [scan_encodeChar] at h
  simp at h

/-- No character begins with bytes that are malformed whatever comes after them. -/
theorem not_isBeginning {out : List UInt8 → Output}
    (h : ∀ bs, scan .start (u ++ bs) = none :: out bs) : ¬ IsBeginning u := by
  rintro ⟨c, rest, hc⟩
  exact not_encodeChar_prefix (h rest) c ⟨[], by rw [List.append_nil, hc]⟩

theorem reads_char {c : Char} (hc : String.utf8EncodeChar c = u) (h : Reads bs (lossyChars bs)) :
    Reads (u ++ bs) (lossyChars (u ++ bs)) := by
  rw [← hc, lossyChars_encodeChar]
  exact .char c h

theorem reads_malformed (hu : IsMalformed u bs)
    (hscan : scan .start (u ++ bs) = none :: scan .start bs) (h : Reads bs (lossyChars bs)) :
    Reads (u ++ bs) (lossyChars (u ++ bs)) := by
  have htext : lossyChars (u ++ bs) = '\uFFFD' :: lossyChars bs := by
    rw [lossyChars, hscan]
    rfl
  rw [htext]
  exact .malformed hu h

theorem scan_singleton (h : opening b = ([none], .start)) (bs : List UInt8) :
    scan .start ([b] ++ bs) = none :: scan .start bs := by
  rw [List.singleton_append, scan_cons, step, h]
  rfl

/-- What the bytes so far lead to, and nothing was put out for them. -/
structure Held (u : List UInt8) (payload : Nat) (lo hi : UInt8) (due : Nat) : Prop where
  leads : Leads u lo hi due
  scan_append (bs : List UInt8) : scan .start (u ++ bs) = scan (.within payload lo hi due) bs

namespace Held

variable {payload : Nat}

theorem part (h : Held u payload lo hi due) : u.length = 1 ∨ u ≠ [] ∧ IsBeginning u :=
  .inr ⟨h.leads.ne_nil, h.leads.isBeginning⟩

/-- A byte within the range is one more of the character, or its last. -/
theorem next (h : Held u payload lo hi (due + 1)) (hlo : lo ≤ b) (hhi : b ≤ hi) :
    Held (u ++ [b]) (payload * 64 + (b.toNat - 0x80)) 0x80 0xBF due where
  leads := h.leads.next hlo hhi
  scan_append bs := by
    rw [List.append_assoc, h.scan_append]
    simp only [List.singleton_append, scan_cons, step, hlo, hhi, and_self, if_true, List.nil_append]

/-- A byte out of the range ends a malformed part. -/
theorem scan_outside (h : Held u payload lo hi due) (hb : ¬ (lo ≤ b ∧ b ≤ hi))
    (bs : List UInt8) : scan .start (u ++ b :: bs) = none :: scan .start (b :: bs) := by
  rw [h.scan_append, scan_cons, step, if_neg hb]
  rfl

/-- The bytes held at the end of the input are malformed. -/
theorem isMalformed_nil (h : Held u payload lo hi due) : IsMalformed u [] where
  part := h.part
  longest := nofun
  no_char := not_encodeChar_prefix (h.scan_append [])

theorem isMalformed_cons (h : Held u payload lo hi due) (hb : ¬ (lo ≤ b ∧ b ≤ hi))
    (bs : List UInt8) : IsMalformed u (b :: bs) where
  part := h.part
  longest := by
    rintro b' rest ⟨⟩
    have hscan (bs : List UInt8) :
        scan .start (u ++ [b] ++ bs) = none :: scan .start (b :: bs) := by
      rw [List.append_assoc]
      exact h.scan_outside hb bs
    exact not_isBeginning hscan
  no_char := not_encodeChar_prefix (h.scan_outside hb bs)

end Held

theorem isMalformed_singleton (h : opening b = ([none], .start)) (bs : List UInt8) :
    IsMalformed [b] bs where
  part := .inl rfl
  longest b' _ _ := not_isBeginning fun bs => scan_singleton h (b' :: bs)
  no_char := not_encodeChar_prefix (scan_singleton h bs)

/-- Bytes are read as the text that is made of them. The induction is on the bytes to come, from a
start and from bytes held. -/
theorem reads_scan (bs : List UInt8) : Reads bs (lossyChars bs) ∧
    ∀ u payload lo hi due, Held u payload lo hi due → Reads (u ++ bs) (lossyChars (u ++ bs)) := by
  induction bs with
  | nil =>
    refine ⟨.nil, fun u payload lo hi due hheld => ?_⟩
    exact reads_malformed hheld.isMalformed_nil (hheld.scan_append []) .nil
  | cons b bs ih =>
    obtain ⟨hbs, hwithin⟩ := ih
    have hstart : Reads (b :: bs) (lossyChars (b :: bs)) := by
      rcases opening_cases b with ⟨c, hc⟩ | hopening | ⟨payload, lo, hi, due, hbegins, hopening⟩
      · exact reads_char hc hbs
      · exact reads_malformed (isMalformed_singleton hopening bs) (scan_singleton hopening bs) hbs
      · refine hwithin [b] payload lo hi due ⟨.first hbegins, fun bs => ?_⟩
        rw [List.singleton_append, scan_cons, step, hopening]
        rfl
    refine ⟨hstart, fun u payload lo hi due hheld => ?_⟩
    by_cases hb : lo ≤ b ∧ b ≤ hi
    · cases due with
      | zero =>
        obtain ⟨c, hc⟩ := hheld.leads.complete hb.1 hb.2
        have hread := reads_char hc hbs
        rwa [List.append_assoc] at hread
      | succ due =>
        have hread := hwithin _ _ _ _ _ (hheld.next hb.1 hb.2)
        rwa [List.append_assoc] at hread
    · exact reads_malformed (hheld.isMalformed_cons hb bs) (hheld.scan_outside hb bs) hstart

/-! The text is the only one: a malformed part is as long as it can be. -/

theorem IsBeginning.of_append (h : IsBeginning (u ++ v)) : IsBeginning u := by
  obtain ⟨c, hc⟩ := h
  exact ⟨c, (List.prefix_append u v).trans hc⟩

theorem encodeChar_ne_nil (c : Char) : String.utf8EncodeChar c ≠ [] := by
  intro h
  have hscan := scan_encodeChar c []
  rw [h] at hscan
  cases hscan

namespace IsMalformed

variable {bs' : List UInt8}

theorem ne_nil (h : IsMalformed u bs) : u ≠ [] := by
  rcases h.part with hone | ⟨hne, -⟩
  · exact List.ne_nil_of_length_eq_add_one hone
  · exact hne

theorem eq_nil_of_append (hu : IsMalformed u (v ++ bs)) (h : IsMalformed (u ++ v) bs) :
    v = [] := by
  cases v with
  | nil => rfl
  | cons b v =>
    rcases h.part with hone | ⟨-, hbegins⟩
    · rw [List.length_append, List.length_cons] at hone
      exact absurd (List.length_eq_zero_iff.mp (by omega)) hu.ne_nil
    · rw [List.append_cons] at hbegins
      exact absurd hbegins.of_append (hu.longest b _ rfl)

theorem append_inj (hu : IsMalformed u bs) (hv : IsMalformed v bs') (h : u ++ bs = v ++ bs') :
    u = v ∧ bs = bs' := by
  rcases List.append_eq_append_iff.mp h with ⟨w, rfl, rfl⟩ | ⟨w, rfl, rfl⟩
  · obtain rfl := hu.eq_nil_of_append hv
    exact ⟨(List.append_nil u).symm, rfl⟩
  · obtain rfl := hv.eq_nil_of_append hu
    exact ⟨List.append_nil v, rfl⟩

end IsMalformed

theorem Reads.unique {s t : List Char} (h : Reads bs s) (h' : Reads bs t) : s = t := by
  induction h generalizing t with
  | nil =>
    generalize hbs : ([] : List UInt8) = bs at h'
    cases h' with
    | nil => rfl
    | char c => exact absurd (List.append_eq_nil_iff.mp hbs.symm).1 (encodeChar_ne_nil c)
    | malformed hu => exact absurd (List.append_eq_nil_iff.mp hbs.symm).1 hu.ne_nil
  | @char bs s c h ih =>
    generalize hbs : String.utf8EncodeChar c ++ bs = bs' at h'
    cases h' with
    | nil => exact absurd (List.append_eq_nil_iff.mp hbs).1 (encodeChar_ne_nil c)
    | char c' h' =>
      have hscan := congrArg (scan .start) hbs
      rw [scan_encodeChar, scan_encodeChar] at hscan
      obtain rfl : c = c' := Option.some.inj (List.cons.inj hscan).1
      obtain rfl := List.append_cancel_left hbs
      rw [ih h']
    | malformed hu => exact absurd ⟨bs, hbs⟩ (hu.no_char c)
  | @malformed u bs s hu h ih =>
    generalize hbs : u ++ bs = bs' at h'
    cases h' with
    | nil => exact absurd (List.append_eq_nil_iff.mp hbs).1 hu.ne_nil
    | char c' h' => exact absurd ⟨_, hbs.symm⟩ (hu.no_char c')
    | malformed hv h' =>
      obtain ⟨-, rfl⟩ := hu.append_inj hv hbs
      rw [ih h']

theorem reads_iff {s : List Char} : Reads bs s ↔ s = lossyChars bs := by
  refine ⟨fun h => h.unique (reads_scan bs).1, ?_⟩
  rintro rfl
  exact (reads_scan bs).1

end Outlier.Utf8

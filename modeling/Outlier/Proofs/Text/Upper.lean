import Outlier.Pairs
import Outlier.Text.Upper

/-! Upper-casing once is enough: what comes of it does not change when it is upper-cased again. -/
namespace Outlier

/-! Sets of numbers as bits, which are compared at once. -/

def bitsOf (ns : List Nat) : Nat := ns.foldr (fun n bits => 1 <<< n ||| bits) 0

theorem testBit_bitsOf_of_mem {ns : List Nat} {n : Nat} (h : n ∈ ns) :
    (bitsOf ns).testBit n = true := by
  induction ns with
  | nil => cases h
  | cons m ns ih =>
    rw [bitsOf, List.foldr_cons, Nat.testBit_or, ← bitsOf]
    rcases List.mem_cons.mp h with rfl | h
    · rw [Nat.one_shiftLeft, Nat.testBit_two_pow_self, Bool.true_or]
    · rw [ih h, Bool.or_true]

theorem not_mem_of_bitsOf {ms ns : List Nat} {n : Nat} (h : bitsOf ms &&& bitsOf ns = 0)
    (hm : n ∈ ms) : n ∉ ns := by
  intro hn
  have hbit : (bitsOf ms &&& bitsOf ns).testBit n = true := by
    rw [Nat.testBit_and, testBit_bitsOf_of_mem hm, testBit_bitsOf_of_mem hn, Bool.and_self]
  rw [h, Nat.zero_testBit] at hbit
  cases hbit

/-! The characters that have an upper case, and those that upper-casing leads to. -/

/-- The codes of a run, from its first to its last. -/
def CaseRun.codes (r : CaseRun) : List Nat :=
  (List.range ((r.last - r.first) / r.stride + 1)).map (r.first + r.stride * ·)

theorem CaseRun.mem_codes {r : CaseRun} {n : Nat} (h : r.covers n = true) : n ∈ r.codes := by
  simp only [covers, Bool.and_eq_true, decide_eq_true_eq, beq_iff_eq] at h
  obtain ⟨⟨hfirst, hlast⟩, hmod⟩ := h
  refine List.mem_map.mpr ⟨(n - r.first) / r.stride, List.mem_range.mpr ?_, ?_⟩
  · exact Nat.lt_succ_of_le (Nat.div_le_div_right (Nat.sub_le_sub_right hlast _))
  · have hdiv := Nat.div_add_mod (n - r.first) r.stride
    omega

/-- Above ASCII, the codes of characters with an upper case. -/
def casedCodes : List Nat := caseRuns.flatMap CaseRun.codes ++ caseExpansions.map (·.1)

/-- The codes of the characters in those upper cases. -/
def upperCodes : List Nat :=
  caseRuns.flatMap (fun r => r.codes.map fun n => (r.image n).toNat) ++
    caseExpansions.flatMap fun p => p.2.map fun n => (Char.ofNat n).toNat

theorem upperCodes_not_cased : bitsOf upperCodes &&& bitsOf casedCodes = 0 := by decide +kernel

theorem upperCodes_ascii : (upperCodes.all fun n => 0x80 ≤ n ||
    (Char.ofNat n).toUpper == Char.ofNat n) = true := by decide +kernel

theorem toUpper_ascii : ((List.range 0x80).all fun n =>
    (Char.ofNat n).toUpper.toNat < 0x80 &&
      (Char.ofNat n).toUpper.toUpper == (Char.ofNat n).toUpper) = true := by decide +kernel

variable {c d : Char}

theorem upperChar_of_not_cased (h : 0x80 ≤ c.toNat) (hn : c.toNat ∉ casedCodes) :
    upperChar c = [c] := by
  obtain ⟨hruns, hexpansions⟩ := not_or.mp fun h => hn (List.mem_append.mpr h)
  have hrun : caseRuns.find? (·.covers c.toNat) = none := by
    refine List.find?_eq_none.mpr fun r hr hc => hruns ?_
    exact List.mem_flatMap.mpr ⟨r, hr, CaseRun.mem_codes hc⟩
  have hexpansion : caseExpansions.lookup c.toNat = none := by
    refine List.lookup_eq_none_iff.mpr fun p hp => ?_
    rw [bne_iff_ne]
    exact fun he => hexpansions (List.mem_map.mpr ⟨p, hp, he.symm⟩)
  rw [upperChar, if_neg (Nat.not_lt.mpr h), hrun, hexpansion]

/-- What a character above ASCII leads to is part of an upper case, or that character as it was. -/
theorem mem_upperCodes (h : 0x80 ≤ c.toNat) (hd : d ∈ upperChar c) :
    d.toNat ∈ upperCodes ∨ upperChar d = [d] := by
  rw [upperChar, if_neg (Nat.not_lt.mpr h)] at hd
  cases hrun : caseRuns.find? (·.covers c.toNat) with
  | some r =>
    rw [hrun] at hd
    obtain rfl := List.mem_singleton.mp hd
    have hcovers : r.covers c.toNat = true := by simpa using List.find?_some hrun
    refine .inl (List.mem_append_left _ (List.mem_flatMap.mpr ⟨r, ?_, ?_⟩))
    · exact List.mem_of_find?_eq_some hrun
    · exact List.mem_map.mpr ⟨_, CaseRun.mem_codes hcovers, rfl⟩
  | none =>
    rw [hrun] at hd
    cases hlookup : caseExpansions.lookup c.toNat with
    | some codes =>
      rw [hlookup] at hd
      obtain ⟨n, hn, rfl⟩ := List.mem_map.mp hd
      exact .inl (List.mem_append_right _ (List.mem_flatMap.mpr
        ⟨(c.toNat, codes), mem_of_lookup hlookup, List.mem_map.mpr ⟨n, hn, rfl⟩⟩))
    | none =>
      rw [hlookup] at hd
      obtain rfl := List.mem_singleton.mp hd
      right
      rw [upperChar, if_neg (Nat.not_lt.mpr h), hrun, hlookup]

theorem upperChar_ascii (h : c.toNat < 0x80) : upperChar c = [c.toUpper] := if_pos h

theorem toUpper_of_ascii (h : c.toNat < 0x80) :
    c.toUpper.toNat < 0x80 ∧ c.toUpper.toUpper = c.toUpper := by
  have hall := List.all_eq_true.mp toUpper_ascii c.toNat (List.mem_range.mpr h)
  rw [Char.ofNat_toNat] at hall
  simpa using hall

/-- What upper-casing leads to does not change. -/
theorem upperChar_of_mem (hd : d ∈ upperChar c) : upperChar d = [d] := by
  by_cases hc : c.toNat < 0x80
  · rw [upperChar_ascii hc] at hd
    obtain rfl := List.mem_singleton.mp hd
    obtain ⟨hascii, hupper⟩ := toUpper_of_ascii hc
    rw [upperChar_ascii hascii, hupper]
  · rcases mem_upperCodes (Nat.le_of_not_lt hc) hd with hm | hd
    · by_cases hd : d.toNat < 0x80
      · have hall := List.all_eq_true.mp upperCodes_ascii d.toNat hm
        rw [Char.ofNat_toNat] at hall
        have hupper : d.toUpper = d := by simpa [Nat.not_le.mpr hd] using hall
        rw [upperChar_ascii hd, hupper]
      · exact upperChar_of_not_cased (Nat.le_of_not_lt hd)
          (not_mem_of_bitsOf upperCodes_not_cased hm)
    · exact hd

theorem upper_upper (s : String) : upper (upper s) = upper s := by
  have hfixed (t : List Char) (h : ∀ d ∈ t, upperChar d = [d]) : t.flatMap upperChar = t := by
    induction t with
    | nil => rfl
    | cons d t ih =>
      obtain ⟨hd, ht⟩ := List.forall_mem_cons.mp h
      rw [List.flatMap_cons, hd, ih ht]
      rfl
  rw [upper, upper, String.toList_ofList, hfixed]
  intro d hd
  obtain ⟨c, -, hd⟩ := List.mem_flatMap.mp hd
  exact upperChar_of_mem hd

end Outlier

import Mathlib.Data.List.TakeDrop
import Mathlib.Data.List.TakeWhile
import Outlier.Exchange.Url
import Outlier.Proofs.Activity
import Outlier.Proofs.Text.Joined

/-! Addresses that need no escaping: how they are read, and what they become under a base. -/
namespace Outlier

namespace Percent
variable {marks s : List Char}

/-- What is printable and no mark stays as it is. -/
theorem escape_eq_self (h : ∀ c ∈ s, 0x20 ≤ c.toNat ∧ c.toNat < 0x7F ∧ c ∉ marks) :
    escape marks s = s := by
  induction s with
  | nil => rfl
  | cons c s ih =>
    obtain ⟨hlo, hhi, hm⟩ := h c List.mem_cons_self
    have hc : escapeChar marks c = [c] := if_pos ⟨hlo, hhi, by simpa using hm⟩
    rw [escape, List.flatMap_cons, hc, ← escape, ih fun d hd => h d (List.mem_cons_of_mem _ hd)]
    rfl

end Percent

namespace Url
variable {mark : Char} {base u : Url} {s rest : List Char} {query : Option (List Char)}

theorem cut_of_not_mem (h : mark ∉ s) : cut mark s = (s, none) := by
  have ht : ∀ c ∈ s, (c != mark) = true := fun c hc => bne_iff_ne.mpr fun he => h (he ▸ hc)
  rw [cut, List.span_eq_takeWhile_dropWhile, List.takeWhile_eq_self_iff.mpr ht,
    List.dropWhile_eq_nil_iff.mpr ht]

theorem cut_append (h : mark ∉ s) (t : List Char) : cut mark (s ++ mark :: t) = (s, some t) := by
  have ht : ∀ c ∈ s, (c != mark) = true := fun c hc => bne_iff_ne.mpr fun he => h (he ▸ hc)
  rw [cut, List.span_eq_takeWhile_dropWhile, List.takeWhile_append_of_pos ht,
    List.dropWhile_append_of_pos ht]
  simp

theorem cut_led (h : mark ∉ s) : cut mark (s ++ led mark query) = (s, query) := by
  cases query with
  | none => rw [led, List.append_nil, cut_of_not_mem h]
  | some t => exact cut_append h t

/-- A character that paths and queries hold as it is, whatever it comes after. -/
def isPlain (c : Char) : Bool := 0x20 ≤ c.toNat && c.toNat < 0x7F && !pathMarks.contains c

/-- A path from the root and a query without anything to escape. -/
structure IsPlain (rest : List Char) (query : Option (List Char)) : Prop where
  head : rest.head? ≠ some '/'
  path : ∀ c ∈ rest, isPlain c = true
  query : ∀ t ∈ query, ∀ c ∈ t, isPlain c = true

theorem of_isPlain {c : Char} (h : isPlain c = true) :
    0x20 ≤ c.toNat ∧ c.toNat < 0x7F ∧ c ∉ pathMarks := by
  simpa [isPlain, and_assoc] using h

theorem isPlain_of_isDigit {c : Char} (h : c.isDigit = true) : isPlain c = true ∧ c ≠ '.' := by
  have hval : c.toNat = c.val.toNat := rfl
  have hrange : 48 ≤ c.toNat ∧ c.toNat ≤ 57 := by
    simpa [Char.isDigit, UInt32.le_iff_toNat_le] using h
  have hall : ∀ n < 58, 48 ≤ n → isPlain (Char.ofNat n) = true ∧ Char.ofNat n ≠ '.' := by decide
  rw [← Char.ofNat_toNat c]
  exact hall c.toNat (by omega) hrange.1

theorem escape_path (h : ∀ c ∈ s, isPlain c = true) : Percent.escape pathMarks s = s :=
  Percent.escape_eq_self fun c hc => of_isPlain (h c hc)

theorem escape_query (h : ∀ c ∈ s, isPlain c = true) : Percent.escape queryMarks s = s := by
  refine Percent.escape_eq_self fun c hc => ?_
  obtain ⟨hlo, hhi, hm⟩ := of_isPlain (h c hc)
  have hsub : (queryMarks.all fun c => pathMarks.contains c) = true := rfl
  exact ⟨hlo, hhi, fun hq => hm (List.contains_iff_mem.mp (List.all_eq_true.mp hsub c hq))⟩

theorem not_mem_of_isPlain (h : ∀ c ∈ s, isPlain c = true) (hm : mark ∈ pathMarks) : mark ∉ s :=
  fun hs => (of_isPlain (h mark hs)).2.2 hm

theorem control?_eq_none : control? s = none ↔ ∀ c ∈ s, isControl c = false := by
  rw [control?, List.find?_eq_none]
  constructor
  · intro h c hc
    rw [← List.zipIdx_map_fst 0 s] at hc
    obtain ⟨p, hp, rfl⟩ := List.mem_map.mp hc
    exact Bool.eq_false_iff.mpr (h p hp)
  · intro h p hp
    exact Bool.eq_false_iff.mp (h p.1 (List.fst_mem_of_mem_zipIdx hp))

theorem isControl_of_isPlain {c : Char} (h : isPlain c = true) : isControl c = false := by
  obtain ⟨hlo, hhi, -⟩ := of_isPlain h
  simp only [isControl, Bool.or_eq_false_iff, decide_eq_false_iff_not, beq_eq_false_iff_ne]
  omega

theorem control?_of_isPlain (h : ∀ c ∈ s, isPlain c = true) : control? s = none :=
  control?_eq_none.mpr fun c hc => isControl_of_isPlain (h c hc)

theorem defect?_eq_none : defect? s = none ↔
    s.length ≤ longest ∧ ∀ c ∈ s, isControl c = false := by
  unfold defect?
  split
  · simp; omega
  · simp [control?_eq_none]; omega

theorem partDefect?_eq_none {name : String} : partDefect? name s = none ↔
    s.length ≤ longest ∧ ∀ c ∈ s, isControl c = false := by
  unfold partDefect?
  split
  · simp; omega
  · simp [control?_eq_none]; omega

theorem defect?_of_isPlain (h : ∀ c ∈ s, isPlain c = true) :
    defect? s = if longest < s.length then some .tooLong else none := by
  rw [defect?, control?_of_isPlain h]
  rfl

theorem partDefect?_of_isPlain (h : ∀ c ∈ s, isPlain c = true) (name : String) :
    partDefect? name s = if longest < s.length then some (.longPart name) else none := by
  rw [partDefect?, control?_of_isPlain h]
  rfl

/-- No segment of a path stands for the one it is in or the one above. -/
structure IsResolved (path : List Char) : Prop where
  here : ['.'] ∉ path.splitOn '/'
  above : ['.', '.'] ∉ path.splitOn '/'

theorem resolve_of_isResolved (h : IsResolved s) : resolve s = s := by
  simp [resolve, h.here, h.above]

/-- Without dots there is nothing to resolve. -/
theorem isResolved_of_not_mem (h : '.' ∉ s) : IsResolved s := by
  have hno {u : List Char} (hu : '.' ∈ u) : u ∉ s.splitOn '/' := by
    intro hm
    have hdot : '.' ∈ List.intercalate ['/'] (s.splitOn '/') := mem_intercalate_of_mem hm hu
    rw [List.intercalate_splitOn] at hdot
    exact h hdot
  exact ⟨hno (by decide), hno (by decide)⟩

theorem resolve_eq_self (h : '.' ∉ s) : resolve s = s :=
  resolve_of_isResolved (isResolved_of_not_mem h)

/-! Reading. -/

/-- A path is no address of its own: whatever comes before a colon begins with a slash. -/
theorem splitScheme_path (s : List Char) : splitScheme ('/' :: s) = ([], '/' :: s) := by
  unfold splitScheme
  split
  · rename_i scheme rest hc
    split
    · rename_i hs
      have hhead : scheme.head? = some '/' := by
        unfold cut at hc
        rw [List.span_eq_takeWhile_dropWhile] at hc
        have hp : ('/' != ':') = true := rfl
        simp only [List.takeWhile_cons, hp, if_true, List.dropWhile_cons] at hc
        split at hc
        · cases hc
        · rename_i hspan
          cases hc
          rw [← (Prod.mk.inj hspan).1]
          rfl
      rw [hhead] at hs
      simp at hs
    · rfl
  · rfl

theorem splitAuthority_path (h : s.head? ≠ some '/') :
    splitAuthority ('/' :: s) = ([], '/' :: s) := by
  cases s with
  | nil => rfl
  | cons c s =>
    have hc : c ≠ '/' := fun he => h (by rw [he]; rfl)
    unfold splitAuthority
    split
    · rename_i he
      cases he
      exact absurd rfl hc
    · rfl

theorem make_path (h : s.head? ≠ some '/') (query : Option (List Char)) :
    make [] [] ('/' :: s) query none = .ok ⟨[], nobody, Percent.escape pathMarks ('/' :: s),
      query.map (Percent.escape queryMarks), none⟩ := by
  have ha : readAuthority [] [] = .ok nobody := rfl
  have hd : ['/', '/'].isPrefixOf ('/' :: s) = false := by
    cases s with
    | nil => rfl
    | cons c s =>
      have hc : c ≠ '/' := fun he => h (by rw [he]; rfl)
      simp [List.isPrefixOf, Ne.symm hc]
  simp only [make, ha, bind, Except.bind, hd]
  rfl

/-- A plain path is read as it is, unless it is too long. -/
theorem readChars_path (h : IsPlain rest query)
    (hd : defect? ('/' :: rest ++ led '?' query) = none) :
    readChars ('/' :: rest ++ led '?' query) = .ok ⟨[], nobody, '/' :: rest, query, none⟩ := by
  have hslash : isPlain '/' = true := rfl
  have hpath : ∀ c ∈ '/' :: rest, isPlain c = true := by
    simpa [hslash] using h.path
  have hall : '#' ∉ '/' :: rest ++ led '?' query := by
    rw [List.mem_append]
    rintro (hm | hm)
    · exact not_mem_of_isPlain hpath (by decide) hm
    · cases query with
      | none => cases hm
      | some t =>
        rcases List.mem_cons.mp hm with hm | hm
        · cases hm
        · exact not_mem_of_isPlain (h.query t rfl) (by decide) hm
  have hq : query.map (Percent.escape queryMarks) = query := by
    cases query with
    | none => rfl
    | some t => exact congrArg some (escape_query (h.query t rfl))
  have hno : '?' ∉ '/' :: rest := not_mem_of_isPlain hpath (by decide)
  unfold readChars
  rw [hd]
  simp only [cut_of_not_mem hall, cut_led hno, splitScheme_path, splitAuthority_path h.head,
    make_path h.head, escape_path hpath, hq]

/-- A plain path goes behind the target of the base. -/
theorem join_path {path : String} (h : IsPlain rest query)
    (hp : path.toList = '/' :: rest ++ led '?' query) (hd : defect? path.toList = none) :
    base.join path = base.withTarget (base.target ++ (rest ++ led '?' query)) := by
  have hread : read path = .ok ⟨[], nobody, '/' :: rest, query, none⟩ := by
    rw [read, hp]
    exact readChars_path h (hp ▸ hd)
  have hdrop : ('/' :: rest ++ led '?' query).dropWhile (· == '/') = rest ++ led '?' query := by
    have hhead : (rest ++ led '?' query).head? ≠ some '/' := by
      cases rest with
      | nil =>
        cases query <;> simp [led]
      | cons c rest => simpa using h.head
    cases hr : rest ++ led '?' query with
    | nil => simp [hr]
    | cons c t =>
      have hc : c ≠ '/' := by simpa [hr] using hhead
      simp [hr, hc]
  have htarget : target ⟨[], nobody, '/' :: rest, query, none⟩ = '/' :: rest ++ led '?' query := rfl
  rw [join, hread, ← hdrop, ← htarget]
  rfl

/-! Making. -/

/-- What the parts of an address that is made are made of. -/
theorem of_make {scheme authority path : List Char} {query fragment : Option (List Char)}
    (h : make scheme authority path query fragment = .ok u) :
    u.scheme = scheme.map Char.toLower ∧ readAuthority scheme authority = .ok u.authority ∧
      u.query = query.map (Percent.escape queryMarks) ∧
      u.fragment = fragment.map (Percent.escape fragmentMarks) ∧
      (scheme ≠ [] → u.path = Percent.escape pathMarks (resolve path)) := by
  obtain ⟨a, ha, h⟩ := ok_of_bind h
  dsimp only at h
  split at h
  · cases h
  split at h
  next hnobody =>
    rw [Bool.and_eq_true] at hnobody
    have hempty : scheme = [] := List.isEmpty_iff.mp hnobody.1
    split at h
    · cases h
    split at h
    · cases h
    cases h
    exact ⟨rfl, ha, rfl, rfl, absurd hempty⟩
  next =>
    cases h
    exact ⟨rfl, ha, rfl, rfl, fun _ => rfl⟩

theorem make_ok {scheme authority path : List Char} {query fragment : Option (List Char)}
    (h : make scheme authority path query fragment = .ok u) :
    u.query = query.map (Percent.escape queryMarks) := (of_make h).2.2.1

theorem remake_ok {scheme authority path : List Char} {query fragment : Option (List Char)}
    (h : remake scheme authority path query fragment = .ok u) :
    make scheme authority path query fragment = .ok u := by
  unfold remake at h
  dsimp only at h
  split at h
  · cases h
  · exact h

theorem defect?_of_readChars (h : readChars s = .ok u) : defect? s = none := by
  unfold readChars at h
  split at h
  · cases h
  · rename_i hd
    exact hd

theorem defect?_of_join {path : String} (h : base.join path = .ok u) :
    defect? path.toList = none := by
  obtain ⟨v, hv, -⟩ := ok_of_bind h
  exact defect?_of_readChars hv

/-- Behind a target without a query, a plain query is that of the whole address. -/
theorem query_of_join {path : String} (h : IsPlain rest query)
    (hp : path.toList = '/' :: rest ++ led '?' query) (hb : '?' ∉ base.target)
    (hj : base.join path = .ok u) : u.query = query := by
  have hd := defect?_of_join hj
  have hno : '?' ∉ base.target ++ rest := by
    rw [List.mem_append]
    rintro (hm | hm)
    · exact hb hm
    · exact not_mem_of_isPlain h.path (by decide) hm
  rw [join_path h hp hd, withTarget, ← List.append_assoc, cut_led hno] at hj
  rw [make_ok (remake_ok hj)]
  cases query with
  | none => rfl
  | some t => exact congrArg some (escape_query (h.query t rfl))

end Url
end Outlier

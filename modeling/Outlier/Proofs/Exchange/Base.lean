import Outlier.Proofs.Exchange.Url
import Outlier.Proofs.Hostname.Ascii
import Outlier.Proofs.Number.Written

/-! Addresses in normal form, which are written as they are read, and what is put under them. -/
namespace Outlier

namespace Percent
variable {marks s : List Char} {c : Char}

theorem isAscii_toUpper_digitChar : ∀ n < 16,
    isAscii n.digitChar.toUpper = true ∧ n.digitChar.toUpper ≠ '/' := by decide

theorem of_mem_escapeByte {b : UInt8} (h : c ∈ escapeByte b) : isAscii c = true ∧ c ≠ '/' := by
  have hb : b.toNat < 256 := b.toNat_lt
  have hhex : Quoted.hex 2 b.toNat = [(b.toNat / 16).digitChar, (b.toNat % 16).digitChar] := by
    rw [Quoted.hex_succ Nat.one_pos, Quoted.hex_one (by omega)]
    rfl
  rw [escapeByte, hhex] at h
  rcases List.mem_cons.mp h with rfl | h
  · decide
  obtain ⟨d, hd, rfl⟩ := List.mem_map.mp h
  rcases List.mem_cons.mp hd with rfl | hd
  · exact isAscii_toUpper_digitChar _ (by omega)
  · rw [List.mem_singleton.mp hd]
    exact isAscii_toUpper_digitChar _ (by omega)

/-- What is escaped is ASCII. A character either is one that was there and is no mark, or belongs to
an escape. -/
theorem of_mem_escape (h : c ∈ escape marks s) :
    isAscii c = true ∧ (c ∉ marks ∨ c ≠ '/') := by
  obtain ⟨d, -, hc⟩ := List.mem_flatMap.mp h
  unfold escapeChar at hc
  split at hc
  next hplain =>
    rw [List.mem_singleton.mp hc]
    refine ⟨?_, .inl (by simpa using hplain.2.2)⟩
    have := hplain.2.1
    simp [isAscii]
    omega
  next =>
    obtain ⟨b, -, hc⟩ := List.mem_flatMap.mp hc
    obtain ⟨hascii, hne⟩ := of_mem_escapeByte hc
    exact ⟨hascii, .inr hne⟩

theorem slash_not_mem_escape (hm : '/' ∈ marks) : '/' ∉ escape marks s := fun h =>
  (of_mem_escape h).2.elim (absurd hm) fun hne => hne rfl

end Percent

namespace Url
variable {c : Char} {s written rest scheme : List Char} {b : Authority}

/-! What authorities are written with. -/

theorem splitUser_mem (h : c ∈ (splitUser s).2) : c ∈ s := by
  unfold splitUser at h
  split at h
  · exact h
  next rest d user hspan =>
    rw [List.span_eq_takeWhile_dropWhile] at hspan
    have hrest := (Prod.mk.inj hspan).1
    rw [List.mem_reverse, ← hrest] at h
    exact List.mem_reverse.mp (List.takeWhile_subset _ h)

theorem splitHost_mem (h : c ∈ (splitHost s).1) : c ∈ s := by
  unfold splitHost at h
  split at h
  · simp only [List.span_eq_takeWhile_dropWhile] at h
    exact List.mem_reverse.mp ((List.dropWhile_suffix _).subset (List.mem_reverse.mp h))
  · rw [List.span_eq_takeWhile_dropWhile] at h
    exact List.takeWhile_subset _ h

theorem of_mem_ofInt {n : Int} (h : c ∈ Numeral.ofInt n) : isAscii c = true ∧ c ≠ '/' := by
  have hdigit (hd : c.isDigit = true) : isAscii c = true ∧ c ≠ '/' := by
    have hplain := (of_isPlain (isPlain_of_isDigit hd).1).2.1
    refine ⟨by simp [isAscii]; omega, ?_⟩
    rintro rfl
    exact absurd hd (by decide)
  unfold Numeral.ofInt at h
  split at h
  · rcases List.mem_cons.mp h with rfl | h
    · decide
    · exact hdigit (Numeral.isDigit_of_mem_toDigits h)
  · exact hdigit (Numeral.isDigit_of_mem_toDigits h)

theorem of_mem_authorityChars (h : c ∈ authorityChars b) :
    c ∈ b.user ∨ c ∈ b.host ∨ isAscii c = true ∧ c ≠ '/' := by
  unfold authorityChars at h
  rcases List.mem_append.mp h with h | h
  · rcases List.mem_append.mp h with h | h
    · split at h
      · cases h
      · rcases List.mem_append.mp h with h | h
        · exact .inl h
        · exact .inr (.inr (List.mem_singleton.mp h ▸ by decide))
    · unfold Host.written at h
      split at h
      · rcases List.mem_append.mp h with h | h
        · rcases List.mem_cons.mp h with rfl | h
          · exact .inr (.inr (by decide))
          · exact .inr (.inl h)
        · exact .inr (.inr (List.mem_singleton.mp h ▸ by decide))
      · exact .inr (.inl h)
  · cases hp : b.port with
    | none => rw [hp] at h; cases h
    | some n =>
      rw [hp] at h
      rcases List.mem_cons.mp h with rfl | h
      · exact .inr (.inr (by decide))
      · exact .inr (.inr (of_mem_ofInt h))

/-- A host has no slash that was not written. Only one written in ASCII could have. -/
theorem slash_not_mem_host {host : List Char} (h : Host.read written = .ok host)
    (hs : '/' ∉ written) :
    '/' ∉ host ∨ (∃ c ∈ written, isAscii c = false) ∧ ∀ c ∈ host, isAscii c = true := by
  unfold Host.read at h
  split at h
  · cases h
    exact .inl nofun
  split at h
  · split at h
    · cases h
      exact .inl hs
    · cases h
  split at h
  · dsimp only at h
    split at h
    · cases h
      exact .inl fun hm => hs (List.mem_of_mem_tail (List.dropLast_subset _ hm))
    · cases h
  split at h
  · cases h
    exact .inl (Percent.slash_not_mem_escape (by decide))
  next hascii =>
    refine .inr ⟨?_, fun c hc => Hostname.isAscii_write (ok_of_mapError h) hc⟩
    simpa using hascii

/-- The text of an authority that was read without a slash has none, unless it is ASCII where what
was read is not. -/
theorem slash_not_mem_authority (h : readAuthority scheme s = .ok b) (hs : '/' ∉ s) :
    '/' ∉ authorityChars b ∨
      (∃ c ∈ s, isAscii c = false) ∧ ∀ c ∈ authorityChars b, isAscii c = true := by
  obtain ⟨host, hhost, h⟩ := ok_of_bind h
  obtain ⟨port, -, h⟩ := ok_of_bind h
  cases h
  have hmem {c : Char} (hc : c ∈ (splitHost (splitUser s).2).1) : c ∈ s :=
    splitUser_mem (splitHost_mem hc)
  rcases slash_not_mem_host (ok_of_mapError hhost) fun hc => hs (hmem hc) with hno | ⟨hout, hin⟩
  · refine .inl fun hc => ?_
    rcases of_mem_authorityChars hc with hc | hc | hc
    · exact Percent.slash_not_mem_escape (by decide) hc
    · exact hno hc
    · exact hc.2 rfl
  · obtain ⟨c, hc, hascii⟩ := hout
    refine .inr ⟨⟨c, hmem hc, hascii⟩, fun d hd => ?_⟩
    rcases of_mem_authorityChars hd with hd | hd | hd
    · exact (Percent.of_mem_escape hd).1
    · exact hin d hd
    · exact hd.1

/-! Segments of paths. -/

/-- A path begins at the root, if it is not empty. -/
def IsRooted (path : List Char) : Prop := path = [] ∨ path.head? = some '/'

theorem IsResolved.append {path rest : List Char} (h : IsResolved path) (h' : IsResolved rest) :
    IsResolved (path ++ '/' :: rest) := by
  constructor <;> rw [List.splitOn_append_cons_self, List.mem_append, not_or]
  · exact ⟨h.here, h'.here⟩
  · exact ⟨h.above, h'.above⟩

/-- Resolving never takes away the empty segment in front of the root. -/
theorem head?_foldl_resolve (segments : List (List Char)) {out : List (List Char)}
    (h : out.head? = some []) :
    (segments.foldl (fun out s =>
      if s = ['.'] then out
      else if s = ['.', '.'] then (if out = [] ∨ out = [[]] then out else out.dropLast)
      else out ++ [s]) out).head? = some [] := by
  induction segments generalizing out with
  | nil => exact h
  | cons s segments ih =>
    apply ih
    cases out with
    | nil => cases h
    | cons first out =>
      cases h
      dsimp only
      split
      · rfl
      split
      · cases out with
        | nil => rfl
        | cons next out => simp
      · rfl

theorem isRooted_intercalate {segments : List (List Char)} (h : segments.head? = some []) :
    IsRooted (List.intercalate ['/'] segments) := by
  cases segments with
  | nil => cases h
  | cons first segments =>
    cases h
    cases segments with
    | nil => exact .inl rfl
    | cons next segments => exact .inr (by rw [List.intercalate_cons_cons]; rfl)

theorem IsRooted.resolve {path : List Char} (h : IsRooted path) : IsRooted (resolve path) := by
  unfold Url.resolve
  dsimp only
  split
  · cases path with
    | nil => exact .inl rfl
    | cons c path =>
      have hc : c = '/' := by simpa [IsRooted] using h
      subst hc
      have hsplit : ('/' :: path).splitOn '/' = [] :: path.splitOn '/' :=
        List.splitOn_append_cons_self [] path
      rw [hsplit, List.foldl_cons]
      exact isRooted_intercalate (head?_foldl_resolve _ rfl)
  · exact h

theorem IsRooted.escape {path : List Char} (h : IsRooted path) :
    IsRooted (Percent.escape pathMarks path) := by
  cases path with
  | nil => exact .inl rfl
  | cons c path =>
    have hc : c = '/' := by simpa [IsRooted] using h
    subst hc
    exact .inr rfl

/-! Taking apart and putting together. -/

theorem of_cut_none {mark : Char} {t : List Char} (h : cut mark s = (t, none)) :
    t = s ∧ mark ∉ s := by
  unfold cut at h
  rw [List.span_eq_takeWhile_dropWhile] at h
  split at h
  next front hspan =>
    cases h
    obtain ⟨hfront, hdrop⟩ := Prod.mk.inj hspan
    have hall := List.dropWhile_eq_nil_iff.mp hdrop
    refine ⟨hfront ▸ List.takeWhile_eq_self_iff.mpr hall, fun hm => ?_⟩
    simpa using hall mark hm
  · cases h

theorem of_cut_some {mark : Char} {t : List Char} (h : cut mark s = (t, some rest)) :
    s = t ++ mark :: rest := by
  unfold cut at h
  rw [List.span_eq_takeWhile_dropWhile] at h
  split at h
  · cases h
  next front d tail hspan =>
    cases h
    obtain ⟨hfront, hdrop⟩ := Prod.mk.inj hspan
    have hd : d = mark := by
      have hhead := List.head?_dropWhile_not (· != mark) s
      rw [hdrop] at hhead
      simpa using hhead
    rw [← hd, ← hdrop, ← hfront, List.takeWhile_append_dropWhile]

theorem of_splitScheme (h : splitScheme s = (scheme, rest)) (hs : scheme ≠ []) :
    s = scheme ++ ':' :: rest := by
  unfold splitScheme at h
  split at h
  next hcut =>
    split at h
    · cases h
      exact of_cut_some hcut
    · cases h
      exact absurd rfl hs
  · cases h
    exact absurd rfl hs

theorem make_eq {path : List Char} {query fragment : Option (List Char)} (hs : scheme ≠ [])
    (hp : IsRooted path) : make scheme s path query fragment = (readAuthority scheme s).map fun b =>
      ⟨scheme.map Char.toLower, b, Percent.escape pathMarks (resolve path),
        query.map (Percent.escape queryMarks), fragment.map (Percent.escape fragmentMarks)⟩ := by
  have hempty : scheme.isEmpty = false := by simpa using hs
  have hrooted : path.head?.any (· != '/') = false := by
    rcases hp with rfl | hp
    · rfl
    · simp [hp]
  unfold make
  cases readAuthority scheme s with
  | error d => rfl
  | ok b => simp [bind, Except.bind, Except.map, hempty, hrooted]

/-! Normal forms. -/

/-- The address of a service in normal form: it is written as it is read. It has a scheme and a
host, no segments of dots, no query and no fragment, and no slash ends it. -/
structure IsBase (a : String) (u : Url) : Prop where
  read : read a = .ok u
  text : u.text = a
  scheme : u.scheme ≠ []
  host : u.authority.host ≠ []
  path : IsResolved u.path
  query : u.query = none
  fragment : u.fragment = none
  last : a.toList.getLast? ≠ some '/'

/-- Each part of an address is as it is read, and there is room for one more character. -/
structure IsNormal (u : Url) : Prop where
  scheme : u.scheme ≠ []
  lower : u.scheme.map Char.toLower = u.scheme
  authority : readAuthority u.scheme (authorityChars u.authority) = .ok u.authority
  rooted : IsRooted u.path
  resolved : IsResolved u.path
  escaped : Percent.escape pathMarks u.path = u.path
  mark : '?' ∉ u.path
  query : u.query = none
  fragment : u.fragment = none
  clean : ∀ c ∈ u.scheme ++ authorityChars u.authority ++ u.path, isControl c = false
  short : (u.scheme ++ authorityChars u.authority ++ u.path).length < longest

variable {a : String} {u : Url}

theorem authorityChars_ne_nil (h : b.host ≠ []) : authorityChars b ≠ [] := by
  have hwritten : Host.written b.host ≠ [] := by
    unfold Host.written
    split
    · exact List.cons_ne_nil _ _
    · exact h
  simp [authorityChars, hwritten]

theorem IsBase.toList_eq (h : IsBase a u) : a.toList =
    u.scheme ++ ':' :: '/' :: '/' :: (authorityChars u.authority ++ u.path) := by
  rw [← h.text, Url.text, String.toList_ofList, toChars, h.query, h.fragment]
  have hscheme : u.scheme.isEmpty = false := by simpa using h.scheme
  have hauthority : (authorityChars u.authority).isEmpty = false := by
    simpa using authorityChars_ne_nil h.host
  simp [hscheme, hauthority, led]

theorem isRooted_dropWhile (s : List Char) : IsRooted (s.dropWhile (· != '/')) := by
  cases hs : s.dropWhile (· != '/') with
  | nil => exact .inl rfl
  | cons c rest =>
    have hhead := List.head?_dropWhile_not (· != '/') s
    rw [hs] at hhead
    exact .inr (by simpa using hhead)

theorem takeWhile_of_isRooted {path : List Char} (h : IsRooted path) :
    path.takeWhile (· != '/') = [] := by
  rcases h with rfl | h
  · rfl
  · cases path with
    | nil => rfl
    | cons c path =>
      have hc : c = '/' := by simpa using h
      simp [hc]

/-- An authority up to the path is the one that was read, if it is written as it was read. -/
theorem authority_of_written {authority path : List Char} (hrooted : IsRooted path)
    (hauthority : (authorityChars b ++ path).takeWhile (· != '/') = authority)
    (h : readAuthority scheme authority = .ok b) : authority = authorityChars b := by
  have hslash : '/' ∉ authority := by
    rw [← hauthority]
    intro hm
    simpa using List.mem_takeWhile_imp hm
  -- Otherwise what was read is the front of what is written, but only one of them is in ASCII.
  have hno : '/' ∉ authorityChars b := by
    rcases slash_not_mem_authority h hslash with hno | ⟨⟨c, hc, hascii⟩, hall⟩
    · exact hno
    intro hm
    have hshort :
        ¬ ((authorityChars b).takeWhile (· != '/')).length = (authorityChars b).length := by
      intro hlength
      have hself := (List.takeWhile_prefix (· != '/')).eq_of_length hlength
      simpa using List.takeWhile_eq_self_iff.mp hself '/' hm
    have hfront : authority = (authorityChars b).takeWhile (· != '/') := by
      rw [← hauthority, List.takeWhile_append, if_neg hshort]
    have hc' := hall c (List.takeWhile_subset _ (hfront ▸ hc))
    rw [hascii] at hc'
    cases hc'
  rw [← hauthority, List.takeWhile_append_of_pos, takeWhile_of_isRooted hrooted, List.append_nil]
  exact fun c hc => bne_iff_ne.mpr fun he => hno (he ▸ hc)

/-- An address that is read without a query or a fragment is a scheme and what comes behind it. -/
theorem of_readChars (h : readChars s = .ok u) (hs : u.scheme ≠ []) (hq : u.query = none)
    (hf : u.fragment = none) : '?' ∉ s ∧ ∃ scheme rest, s = scheme ++ ':' :: rest ∧
      u.scheme = scheme.map Char.toLower ∧
      readAuthority scheme (splitAuthority rest).1 = .ok u.authority ∧
      u.path = Percent.escape pathMarks (resolve (splitAuthority rest).2) := by
  unfold readChars at h
  split at h
  · cases h
  cases hfragment : cut '#' s with
  | mk s₁ fragment =>
  cases hquery : cut '?' s₁ with
  | mk s₂ query =>
  cases hscheme : splitScheme s₂ with
  | mk scheme s₃ =>
  simp only [hfragment, hquery, hscheme] at h
  obtain ⟨hlower, hauthority, hq', hf', hpath⟩ := of_make h
  have hnofragment : fragment = none := by simpa [hf] using hf'.symm
  have hnoquery : query = none := by simpa [hq] using hq'.symm
  subst hnofragment hnoquery
  obtain ⟨rfl, -⟩ := of_cut_none hfragment
  obtain ⟨rfl, hmark⟩ := of_cut_none hquery
  have hne : scheme ≠ [] := by
    rintro rfl
    exact hs hlower
  exact ⟨hmark, scheme, s₃, of_splitScheme hscheme hne, hlower, hauthority, hpath hne⟩

theorem splitAuthority_slashes (s : List Char) : splitAuthority ('/' :: '/' :: s) =
    (s.takeWhile (· != '/'), s.dropWhile (· != '/')) := List.span_eq_takeWhile_dropWhile _ _

theorem IsBase.isNormal (h : IsBase a u) : IsNormal u := by
  have hchars := h.toList_eq
  have hread : readChars a.toList = .ok u := h.read
  obtain ⟨hlength, hclean⟩ := defect?_eq_none.mp (defect?_of_readChars hread)
  obtain ⟨hmark, scheme, rest, hsplit, hscheme, hauthority, hpath⟩ :=
    of_readChars hread h.scheme h.query h.fragment
  rw [hchars] at hsplit hmark hclean hlength
  obtain ⟨hsame, hrest⟩ := List.append_inj hsplit (by rw [hscheme, List.length_map])
  obtain rfl := (List.cons.inj hrest).2
  rw [← hsame] at hscheme hauthority
  rw [splitAuthority_slashes] at hauthority hpath
  -- The authority ends where the path begins, so that each of them is read from its own text.
  have hrooted : IsRooted u.path := hpath ▸ (isRooted_dropWhile _).resolve.escape
  have hfront := authority_of_written hrooted rfl hauthority
  have hback := List.takeWhile_append_dropWhile (p := (· != '/'))
    (l := authorityChars u.authority ++ u.path)
  rw [hfront] at hauthority hback
  rw [List.append_cancel_left hback, resolve_of_isResolved h.path] at hpath
  refine ⟨h.scheme, hscheme.symm, hauthority, hrooted, h.path, hpath.symm, ?_, h.query,
    h.fragment, fun c hc => hclean c ?_, ?_⟩
  · exact fun hm => hmark (by simp [hm])
  · rcases List.mem_append.mp hc with hc | hc
    · rcases List.mem_append.mp hc with hc | hc <;> simp [hc]
    · simp [hc]
  · simp only [List.length_append, List.length_cons] at hlength ⊢
    omega

/-! What is put under a base. -/

/-- The address that a base is kept as: its target has a slash behind it. -/
structure IsKeptAs (u base : Url) : Prop where
  scheme : base.scheme = u.scheme
  authority : base.authority = u.authority
  fragment : base.fragment = none
  target : base.target = u.path ++ ['/']

/-- An address with more segments and a query. -/
def under (u : Url) (rest : List Char) (form : Option (List Char)) : Url :=
  { u with path := u.path ++ '/' :: rest, query := form, fragment := none }

namespace IsNormal
variable {base v : Url} {form : Option (List Char)} {path : String}

theorem make_under (h : IsNormal u) (hplain : IsPlain rest form) (hdot : '.' ∉ rest) :
    make u.scheme (authorityChars u.authority) (u.path ++ '/' :: rest) form none =
      .ok (u.under rest form) := by
  have hrooted : IsRooted (u.path ++ '/' :: rest) := by
    rcases h.rooted with hp | hp
    · exact .inr (by rw [hp]; rfl)
    · exact .inr (by rw [List.head?_append, hp]; rfl)
  have hresolved := h.resolved.append (isResolved_of_not_mem hdot)
  have hslash : isPlain '/' = true := rfl
  have hescaped : Percent.escape pathMarks (u.path ++ '/' :: rest) = u.path ++ '/' :: rest := by
    have hrest := escape_path (s := '/' :: rest) (by simpa [hslash] using hplain.path)
    rw [Percent.escape, List.flatMap_append, ← Percent.escape, ← Percent.escape, h.escaped, hrest]
  have hform : form.map (Percent.escape queryMarks) = form := by
    cases form with
    | none => rfl
    | some t => exact congrArg some (escape_query (hplain.query t rfl))
  rw [make_eq h.scheme hrooted, h.authority, resolve_of_isResolved hresolved, hescaped, hform,
    h.lower]
  rfl

/-- More segments and a query are put under an address that has room for them. -/
theorem remake_under (h : IsNormal u) (hplain : IsPlain rest form) (hdot : '.' ∉ rest) :
    remake u.scheme (authorityChars u.authority) (u.path ++ '/' :: rest) form none =
      if longest < (u.path ++ '/' :: rest).length then .error (.longPart "path")
      else if longest < (form.getD []).length then .error (.longPart "query")
      else .ok (u.under rest form) := by
  have hshort := h.short
  simp only [List.length_append] at hshort
  have hscheme : partDefect? "scheme" u.scheme = none :=
    partDefect?_eq_none.mpr ⟨by omega, fun c hc => h.clean c (by simp [hc])⟩
  have hauthority : partDefect? "authority" (authorityChars u.authority) = none :=
    partDefect?_eq_none.mpr ⟨by omega, fun c hc => h.clean c (by simp [hc])⟩
  have hpath : partDefect? "path" (u.path ++ '/' :: rest) =
      if longest < (u.path ++ '/' :: rest).length then some (.longPart "path") else none := by
    have hcontrol : control? (u.path ++ '/' :: rest) = none := by
      refine control?_eq_none.mpr fun c hc => ?_
      rcases List.mem_append.mp hc with hc | hc
      · exact h.clean c (by simp [hc])
      rcases List.mem_cons.mp hc with rfl | hc
      · rfl
      · exact isControl_of_isPlain (hplain.path c hc)
    rw [partDefect?, hcontrol]
    rfl
  have hquery : partDefect? "query" (form.getD []) =
      if longest < (form.getD []).length then some (.longPart "query") else none := by
    refine partDefect?_of_isPlain (fun c hc => ?_) "query"
    cases form with
    | none => cases hc
    | some t => exact hplain.query t rfl c hc
  have hfragment : partDefect? "fragment" (Option.getD none []) = none := rfl
  rw [remake]
  simp only [List.findSome?_cons, List.findSome?_nil, hscheme, hauthority, hpath, hquery, hfragment,
    h.make_under hplain hdot]
  by_cases hlong : longest < (u.path ++ '/' :: rest).length
  · simp only [if_pos hlong]
  · by_cases hlarge : longest < (form.getD []).length
    · simp only [if_neg hlong, if_pos hlarge]
    · simp only [if_neg hlong, if_neg hlarge]

/-- What is put under a base that is kept follows the address in normal form. -/
theorem join_under (h : IsNormal u) (hb : IsKeptAs u base) (hplain : IsPlain rest form)
    (hdot : '.' ∉ rest) (hp : path.toList = '/' :: rest ++ led '?' form)
    (hd : defect? path.toList = none) : base.join path =
      if longest < (u.path ++ '/' :: rest).length then .error (.longPart "path")
      else if longest < (form.getD []).length then .error (.longPart "query")
      else .ok (u.under rest form) := by
  have htarget : base.target ++ (rest ++ led '?' form) =
      (u.path ++ '/' :: rest) ++ led '?' form := by
    rw [hb.target]
    simp
  have hmark : '?' ∉ u.path ++ '/' :: rest := by
    rw [List.mem_append, not_or, List.mem_cons, not_or]
    exact ⟨h.mark, by decide, not_mem_of_isPlain hplain.path (by decide)⟩
  rw [join_path hplain hp hd, htarget, withTarget, cut_led hmark]
  simp only [hb.scheme, hb.authority, hb.fragment]
  exact h.remake_under hplain hdot

end IsNormal

namespace IsBase
variable {base : Url}

/-- A base address in normal form is kept with one slash behind it. -/
theorem readBase (h : IsBase a u) : ∃ base, readBase a = .ok base ∧ IsKeptAs u base := by
  have hnormal := h.isNormal
  have htarget : u.target = if u.path.isEmpty then ['/'] else u.path := by
    rw [target, h.query, led, List.append_nil]
  have hread : Url.readBase a = if u.target.getLast? = some '/' then .ok u
      else u.withTarget (u.target ++ ['/']) := by
    rw [Url.readBase, h.read]
    rfl
  by_cases hempty : u.path = []
  · have hslash : u.target = ['/'] := by rw [htarget, hempty]; rfl
    rw [hread, hslash]
    exact ⟨u, rfl, rfl, rfl, h.fragment, by rw [hslash, hempty]; rfl⟩
  · have hpath : u.target = u.path := by rw [htarget, if_neg (by simpa using hempty)]
    have hlast : u.path.getLast? ≠ some '/' := by
      have hsplit : a.toList =
          (u.scheme ++ ':' :: '/' :: '/' :: authorityChars u.authority) ++ u.path := by
        simp [h.toList_eq]
      intro hp
      exact h.last (by rw [hsplit, List.getLast?_append, hp]; rfl)
    have hroom : ¬ longest < (u.path ++ '/' :: []).length := by
      have := hnormal.short
      simp only [List.length_append, List.length_cons, List.length_nil] at this ⊢
      omega
    have hmark : '?' ∉ u.path ++ ['/'] := by
      rw [List.mem_append, not_or]
      exact ⟨hnormal.mark, by decide⟩
    have hnothing : IsPlain [] none := ⟨by decide, List.forall_mem_nil _, by simp⟩
    refine ⟨u.under [] none, ?_, rfl, rfl, rfl, ?_⟩
    · rw [hread, hpath, if_neg hlast, withTarget, cut_of_not_mem hmark]
      simp only [h.fragment]
      rw [hnormal.remake_under hnothing List.not_mem_nil, if_neg hroom, if_neg (by decide)]
    · have hne : (u.path ++ ['/']).isEmpty = false := by simp
      simp only [target, under, hne, led]
      simp

/-- The text of what is put under a base address is the one after the other. -/
theorem toChars_under (h : IsBase a u) (rest : List Char) (form : Option (List Char)) :
    (u.under rest form).toChars = a.toList ++ ('/' :: rest ++ led '?' form) := by
  have hscheme : u.scheme.isEmpty = false := by simpa using h.scheme
  have hauthority : (authorityChars u.authority).isEmpty = false := by
    simpa using authorityChars_ne_nil h.host
  simp [h.toList_eq, toChars, under, hscheme, hauthority, led]

end IsBase

end Url
end Outlier

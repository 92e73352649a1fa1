import Outlier.Proofs.Cid.Expression

/-! The texts that the supported patterns accept. None of them has a line end in it or anything around
its identifier. -/
namespace Outlier.Cid

/-! Line ends. -/

/-- The text that a piece has in it is on one line. -/
def Piece.isOneLine : Piece → Bool
  | .literal p | .optional p | .digitsOr p => !p.contains '\n'
  | .digits | .remainder => true

theorem IsRun.not_mem {p : Char → Bool} {u : List Char} {c : Char} (h : IsRun p u)
    (hc : p c = false) : c ∉ u := fun hm => Bool.false_ne_true (hc.symm.trans (h.2 c hm))

theorem not_mem_of_piece {p : Piece} {u : List Char} (hp : p.isOneLine = true)
    (h : p.Matches u) : '\n' ∉ u := by
  cases p with
  | literal p =>
    obtain rfl : u = p := h
    simpa [Piece.isOneLine] using hp
  | optional p =>
    rcases h with rfl | rfl
    · exact List.not_mem_nil
    · simpa [Piece.isOneLine] using hp
  | digits => exact h.not_mem rfl
  | digitsOr p =>
    rcases h with h | rfl
    · exact h.not_mem rfl
    · simpa [Piece.isOneLine] using hp
  | remainder => exact h.not_mem rfl

theorem not_mem_of_matches {ps : Pattern} {s : List Char} (hps : ps.all Piece.isOneLine = true)
    (h : Matches ps s) : '\n' ∉ s := by
  induction ps generalizing s with
  | nil =>
    obtain rfl : s = [] := h
    exact List.not_mem_nil
  | cons p ps ih =>
    obtain ⟨hp, hrest⟩ := Bool.and_eq_true_iff.mp hps
    obtain ⟨u, v, rfl, hu, hv⟩ := h
    exact List.not_mem_append (not_mem_of_piece hp hu) (ih hrest hv)

theorem isOneLine_supported : supported.all (·.2.all Piece.isOneLine) = true := rfl

/-! What stands around an identifier. -/

/-- Nothing may stand before the identifier of a collection, and nothing but digits behind it. -/
theorem matches_around {name : String} (hname : '/' ∉ name.toList) {s : List Char}
    (h : Matches (collectionOf name) s) (x y : List Char) :
    Matches (collectionOf name) (x ++ s ++ y) ↔ x = [] ∧ ∀ c ∈ y, c.isDigit = true := by
  obtain ⟨ds, rfl, hd⟩ := matches_collectionOf.mp h
  rw [matches_collectionOf]
  constructor
  · rintro ⟨ds', he, hd'⟩
    have hx : x = [] := by
      cases x with
      | nil => rfl
      | cons c x =>
        -- An identifier has two slashes, and its own are two of those that come after the first.
        have hdigits {u : List Char} (hu : IsRun Char.isDigit u) : u.count '/' = 0 :=
          List.count_eq_zero.mpr (hu.not_mem rfl)
        have hcount := congrArg (List.count '/') (List.cons.inj he).2
        simp [List.count_eq_zero.mpr hname, hdigits hd'] at hcount
        omega
    subst hx
    have hds : ds ++ y = ds' := by simpa using he
    exact ⟨rfl, fun c hc => hd'.2 c (hds ▸ List.mem_append_right ds hc)⟩
  · rintro ⟨rfl, hy⟩
    refine ⟨ds ++ y, by simp, List.append_ne_nil_of_left_ne_nil hd.1 y, fun c hc => ?_⟩
    exact (List.mem_append.mp hc).elim (hd.2 c) (hy c)

/-! The texts that each pattern is meant for. -/

theorem matches_append {ps qs : Pattern} {s : List Char} :
    Matches (ps ++ qs) s ↔ ∃ u v, s = u ++ v ∧ Matches ps u ∧ Matches qs v := by
  have hspans : (Expression.sequence ((ps ++ qs).flatMap Piece.written)).Spans [] s [] ↔
      Matches (ps ++ qs) s := spans_written
  rw [← hspans, List.flatMap_append, Expression.spans_append]
  simp only [spans_written]

theorem isRun_isLineChar {u : List Char} : IsRun isLineChar u ↔ u ≠ [] ∧ '\n' ∉ u := by
  refine and_congr_right fun _ => ⟨fun h hm => ?_, fun h c hc => ?_⟩
  · exact Bool.false_ne_true (h _ hm)
  · exact bne_iff_ne.mpr fun he => h (he ▸ hc)

theorem matches_single {p : Piece} {s : List Char} : Matches [p] s ↔ p.Matches s := by
  constructor
  · rintro ⟨u, v, rfl, hu, rfl⟩
    simpa using hu
  · intro h
    exact ⟨s, [], (List.append_nil s).symm, h, rfl⟩

theorem matches_ruleSet {s : List Char} :
    Matches (collectionOf "rule_set" ++ [.literal ['_'], .remainder]) s ↔
      ∃ n u, s = "/rule_set/".toList ++ n ++ '_' :: u ∧ IsRun Char.isDigit n ∧
        u ≠ [] ∧ '\n' ∉ u := by
  rw [matches_append]
  constructor
  · rintro ⟨_, _, rfl, hset, _, _, rfl, rfl, hline⟩
    obtain ⟨n, rfl, hn⟩ := matches_collectionOf.mp hset
    obtain ⟨hne, hnl⟩ := isRun_isLineChar.mp (matches_single.mp hline)
    exact ⟨n, _, rfl, hn, hne, hnl⟩
  · rintro ⟨n, u, rfl, hn, hne, hnl⟩
    exact ⟨_, '_' :: u, rfl, matches_collectionOf.mpr ⟨n, rfl, hn⟩, ['_'], u, rfl, rfl,
      matches_single.mpr (isRun_isLineChar.mpr ⟨hne, hnl⟩)⟩

theorem matches_user {s : List Char} :
    Matches [.literal "/user/".toList, .digitsOr "current".toList] s ↔
      s = "/user/current".toList ∨ ∃ n, s = "/user/".toList ++ n ∧ IsRun Char.isDigit n := by
  constructor
  · rintro ⟨_, _, rfl, rfl, hrest⟩
    rcases matches_single.mp hrest with hn | rfl
    · exact .inr ⟨_, rfl, hn⟩
    · exact .inl rfl
  · rintro (rfl | ⟨n, rfl, hn⟩)
    · exact ⟨_, "current".toList, rfl, rfl, matches_single.mpr (.inr rfl)⟩
    · exact ⟨_, n, rfl, rfl, matches_single.mpr (.inl hn)⟩

theorem matches_checkBundle {s : List Char} :
    Matches (.optional "/v2".toList :: collectionOf "check_bundle") s ↔
      ∃ n, (s = "/check_bundle/".toList ++ n ∨ s = "/v2/check_bundle/".toList ++ n) ∧
        IsRun Char.isDigit n := by
  constructor
  · rintro ⟨_, _, rfl, rfl | rfl, hrest⟩
    · obtain ⟨n, rfl, hn⟩ := matches_collectionOf.mp hrest
      exact ⟨n, .inl rfl, hn⟩
    · obtain ⟨n, rfl, hn⟩ := matches_collectionOf.mp hrest
      exact ⟨n, .inr rfl, hn⟩
  · rintro ⟨n, rfl | rfl, hn⟩
    · exact ⟨[], _, rfl, .inl rfl, matches_collectionOf.mpr ⟨n, rfl, hn⟩⟩
    · exact ⟨_, "/check_bundle/".toList ++ n, rfl, .inr rfl, matches_collectionOf.mpr ⟨n, rfl, hn⟩⟩

/-- The whole text matches a pattern as it is written. -/
def acceptsWritten (written cid : String) : Bool := (ofNotation? written).any (accepts · cid)

theorem acceptsWritten_iff {written cid : String} {pattern : Pattern}
    (h : ofNotation? written = some pattern) :
    acceptsWritten written cid = true ↔ Matches pattern cid.toList := by
  rw [acceptsWritten, h, Option.any_some, accepts_iff]

/-- Each supported pattern accepts the whole texts that it is meant for, and no others. It is
written so that it stands for these texts, with anchors or without, and none of them has a line end
in it. All that may be put around the identifier of a collection so that it stays one are digits at
its end. -/
theorem supported_accept_exactly :
    (∀ cid : String,
      (acceptsWritten "^/outlier_report/[0-9]+$" cid = true ↔
        ∃ n, cid.toList = "/outlier_report/".toList ++ n ∧ IsRun Char.isDigit n) ∧
      (acceptsWritten "/outlier_report/[0-9]+" cid = true ↔
        ∃ n, cid.toList = "/outlier_report/".toList ++ n ∧ IsRun Char.isDigit n) ∧
      (acceptsWritten "^/metric_cluster/[0-9]+$" cid = true ↔
        ∃ n, cid.toList = "/metric_cluster/".toList ++ n ∧ IsRun Char.isDigit n) ∧
      (acceptsWritten "^/rule_set/[0-9]+_.+$" cid = true ↔
        ∃ n u, cid.toList = "/rule_set/".toList ++ n ++ '_' :: u ∧ IsRun Char.isDigit n ∧
          u ≠ [] ∧ '\n' ∉ u) ∧
      (acceptsWritten "^/user/([0-9]+|current)$" cid = true ↔ cid = "/user/current" ∨
        ∃ n, cid.toList = "/user/".toList ++ n ∧ IsRun Char.isDigit n) ∧
      (acceptsWritten "^(/v2)?/check_bundle/[0-9]+$" cid = true ↔
        ∃ n, (cid.toList = "/check_bundle/".toList ++ n ∨
          cid.toList = "/v2/check_bundle/".toList ++ n) ∧ IsRun Char.isDigit n)) ∧
    (∀ written pattern, (written, pattern) ∈ supported →
      (∃ front back, Expression.read written =
        some (.anchored front back (pattern.flatMap Piece.written))) ∧
      ∀ cid : String,
        (∀ front back, accepts pattern cid = true ↔
          (Expression.anchored front back (pattern.flatMap Piece.written)).Matches cid.toList) ∧
        (accepts pattern cid = true → '\n' ∉ cid.toList)) ∧
    ∀ name : String, '/' ∉ name.toList → ∀ cid, accepts (collectionOf name) cid = true →
      ∀ x y : String, accepts (collectionOf name) (x ++ cid ++ y) = true ↔
        x = "" ∧ ∀ c ∈ y.toList, c.isDigit = true := by
  refine ⟨fun cid => ⟨?_, ?_, ?_, ?_, ?_, ?_⟩,
    fun written pattern h => ⟨read_supported h, fun cid => ⟨fun front back => ?_, fun ha => ?_⟩⟩,
    fun name hname cid ha x y => ?_⟩
  · exact (acceptsWritten_iff rfl).trans matches_collectionOf
  · exact (acceptsWritten_iff rfl).trans matches_collectionOf
  · exact (acceptsWritten_iff rfl).trans matches_collectionOf
  · exact (acceptsWritten_iff rfl).trans matches_ruleSet
  · rw [acceptsWritten_iff rfl, matches_user, String.toList_inj]
  · exact (acceptsWritten_iff rfl).trans matches_checkBundle
  · rw [accepts_iff, Expression.matches_anchored]
    exact spans_written.symm
  · have hline := List.all_eq_true.mp isOneLine_supported _ h
    exact not_mem_of_matches hline (accepts_iff.mp ha)
  · rw [accepts_iff, String.toList_append, String.toList_append,
      matches_around hname (accepts_iff.mp ha), String.toList_eq_nil_iff]

/-- What a rule set is named by may look like another one, but may not end its line. -/
theorem supported_accept_exactly_ruleSet :
    let pattern := collectionOf "rule_set" ++ [.literal ['_'], .remainder]
    ("^/rule_set/[0-9]+_.+$", pattern) ∈ supported ∧
      acceptsWritten "^/rule_set/[0-9]+_.+$" "/rule_set/1_/rule_set/2_a" = true ∧
      accepts pattern "/rule_set/1_a\n" = false ∧
      '/' ∉ "user".toList ∧ accepts (collectionOf "user") "/user/1" = true ∧
      accepts (collectionOf "user") "/v2/user/12" = false := by
  intro pattern
  obtain ⟨htexts, hwritten, haround⟩ := supported_accept_exactly
  have hsupported : ("^/rule_set/[0-9]+_.+$", pattern) ∈ supported := by
    simp [supported, pattern]
  have hname : '/' ∉ "user".toList := by decide
  have haccepted : accepts (collectionOf "user") "/user/1" = true := by decide +kernel
  refine ⟨hsupported, ?_, ?_, hname, haccepted, ?_⟩
  · exact (htexts _).2.2.2.1.mpr ⟨['1'], "/rule_set/2_a".toList, rfl, by
      simp [IsRun], by decide, by decide⟩
  · refine Bool.eq_false_iff.mpr fun ha => ?_
    exact ((hwritten _ _ hsupported).2 _).2 ha (by decide)
  · refine Bool.eq_false_iff.mpr fun ha => ?_
    exact absurd ((haround "user" hname "/user/1" haccepted "/v2" "2").mp ha).1 (by decide)

end Outlier.Cid

import Outlier.Proofs.Resource.Safety

/-! Identifiers as a resource takes them: full ones, and those that it completes. -/
namespace Outlier.Resource
variable {r : Resource} {cid path : String}

theorem accept_iff : r.accept cid = .ok path ↔ cid = path ∧ Cid.Matches r.pattern path.toList := by
  rw [accept, ← Cid.accepts_iff]
  constructor
  · intro h
    split at h
    next ha =>
      cases h
      exact ⟨rfl, ha⟩
    · cases h
  · rintro ⟨rfl, ha⟩
    exact if_pos ha

theorem accept_error (h : ¬ Cid.Matches r.pattern cid.toList) :
    r.accept cid = .error (r.invalidCid cid (some cid)) :=
  if_neg fun ha => h (Cid.accepts_iff.mp ha)

/-! Completing an identifier. -/

theorem complete_of_isPrefix (h : r.collection.toList <+: cid.toList) : r.complete cid = cid :=
  if_pos (List.isPrefixOf_iff_prefix.mpr h)

theorem complete_of_not_isPrefix (h : ¬ r.collection.toList <+: cid.toList) :
    r.complete cid = r.collection ++ "/" ++ cid :=
  if_neg fun hp => h (List.isPrefixOf_iff_prefix.mp hp)

theorem prefix_complete (r : Resource) (cid : String) :
    r.collection.toList <+: (r.complete cid).toList := by
  by_cases h : r.collection.toList <+: cid.toList
  · rwa [complete_of_isPrefix h]
  · rw [complete_of_not_isPrefix h, String.append_assoc, String.toList_append]
    exact List.prefix_append _ _

theorem complete_complete (r : Resource) (cid : String) :
    r.complete (r.complete cid) = r.complete cid :=
  complete_of_isPrefix (r.prefix_complete cid)

theorem complete_ne_empty (h : cid ≠ "") : r.complete cid ≠ "" := by
  by_cases hp : r.collection.toList <+: cid.toList
  · rwa [complete_of_isPrefix hp]
  · intro he
    have hlength := congrArg String.length ((complete_of_not_isPrefix hp).symm.trans he)
    simp [String.length_append] at hlength

/-- What is said of an identifier that is not taken: it is absent, or shown as completed. -/
def refusal (r : Resource) : Option String → Failure
  | none => r.invalidCid "none" none
  | some cid =>
    if cid = "" then r.invalidCid "none" none
    else r.invalidCid (r.complete cid) (some (r.complete cid))

theorem normalize_text (h : cid ≠ "") : r.normalize (.text cid) = r.accept (r.complete cid) :=
  if_pos (bne_iff_ne.mpr h)

theorem normalize_ofOption_iff {cid : Option String} :
    r.normalize (.ofOption cid) = .ok path ↔
      ∃ s, cid = some s ∧ s ≠ "" ∧ r.complete s = path ∧ Cid.Matches r.pattern path.toList := by
  cases cid with
  | none => exact ⟨nofun, nofun⟩
  | some s =>
    by_cases hs : s = ""
    · subst hs
      refine ⟨nofun, ?_⟩
      rintro ⟨t, ht, hne, -⟩
      exact absurd (Option.some.inj ht).symm hne
    · rw [Value.ofOption, normalize_text hs, accept_iff]
      constructor
      · exact fun h => ⟨s, rfl, hs, h⟩
      · rintro ⟨t, ht, -, h⟩
        cases ht
        exact h

theorem normalize_refused {cid : Option String}
    (h : ∀ path, r.normalize (.ofOption cid) ≠ .ok path) :
    r.normalize (.ofOption cid) = .error (r.refusal cid) := by
  cases cid with
  | none => rfl
  | some s =>
    by_cases hs : s = ""
    · subst hs
      rfl
    · rw [Value.ofOption, normalize_text hs] at h ⊢
      rw [refusal, if_neg hs]
      exact accept_error fun hm => h _ (accept_iff.mpr ⟨rfl, hm⟩)

/-- An identifier is checked as it is, and nothing is taken for an empty one. -/
theorem checkFull_ofOption_iff {cid : Option String} :
    r.checkFull (.ofOption cid) = .ok path ↔
      cid.getD "" = path ∧ Cid.Matches r.pattern path.toList := by
  cases cid with
  | none => exact accept_iff
  | some s =>
    have hcheck : r.checkFull (.text s) = r.accept s := by
      by_cases hs : s = ""
      · subst hs
        rfl
      · exact if_pos (bne_iff_ne.mpr hs)
    exact hcheck ▸ accept_iff

/-! Identifiers of reports. -/

variable {ds : List Char}

theorem matches_outlierReport {path : String} :
    Cid.Matches outlierReport.pattern path.toList ↔
      ∃ ds, Cid.IsRun Char.isDigit ds ∧ path = item ds := by
  refine Cid.matches_collectionOf.trans ⟨?_, ?_⟩
  · rintro ⟨ds, hs, hd⟩
    exact ⟨ds, hd, by rw [item_eq, ← hs, String.ofList_toList]⟩
  · rintro ⟨ds, hd, rfl⟩
    exact ⟨ds, by rw [item_eq, String.toList_ofList], hd⟩

theorem complete_item (ds : List Char) : outlierReport.complete (item ds) = item ds := by
  refine complete_of_isPrefix ⟨'/' :: ds, ?_⟩
  rw [item_eq, String.toList_ofList]
  rfl

/-- A number does not begin as a report's path does. -/
theorem complete_digits (h : Cid.IsRun Char.isDigit ds) :
    outlierReport.complete (String.ofList ds) = item ds := by
  rw [complete_of_not_isPrefix]
  · rfl
  · rintro ⟨t, ht⟩
    rw [String.toList_ofList] at ht
    have hslash : '/' ∈ ds := ht ▸ List.mem_cons_self
    exact absurd (h.2 _ hslash) (by decide +kernel)

theorem eq_of_complete {s : String} (h : outlierReport.complete s = item ds) :
    s = String.ofList ds ∨ s = item ds := by
  by_cases hp : outlierReport.collection.toList <+: s.toList
  · exact .inr ((complete_of_isPrefix hp).symm.trans h)
  · left
    rw [complete_of_not_isPrefix hp] at h
    have hlist := congrArg String.toList h
    rw [item_eq, String.toList_append, String.toList_ofList] at hlist
    rw [← String.ofList_toList (s := s), List.append_cancel_left hlist]

theorem item_ne_empty (ds : List Char) : item ds ≠ "" := by
  intro h
  have hlength := (length_item ds).symm.trans (congrArg String.length h)
  simp at hlength

/-- A report goes by its number and by its full identifier. -/
theorem normalize_report_iff {cid : Option String} :
    outlierReport.normalize (.ofOption cid) = .ok path ↔
      ∃ ds, Cid.IsRun Char.isDigit ds ∧ path = item ds ∧
        (cid = some (String.ofList ds) ∨ cid = some path) := by
  rw [normalize_ofOption_iff, matches_outlierReport]
  constructor
  · rintro ⟨s, rfl, -, hc, ds, hd, rfl⟩
    refine ⟨ds, hd, rfl, ?_⟩
    rcases eq_of_complete hc with rfl | rfl
    · exact .inl rfl
    · exact .inr rfl
  · rintro ⟨ds, hd, rfl, rfl | rfl⟩
    · have hne : String.ofList ds ≠ "" := fun he => hd.1 (String.ofList_eq_empty_iff.mp he)
      exact ⟨_, rfl, hne, complete_digits hd, ds, hd, rfl⟩
    · exact ⟨_, rfl, item_ne_empty ds, complete_item ds, ds, hd, rfl⟩

/-- What a check takes as it is stays as it is when it is normalised, and the other way round. -/
theorem checkFull_report_iff {cid : Option String} :
    outlierReport.checkFull (.ofOption cid) = .ok path ↔
      cid = some path ∧ outlierReport.normalize (.ofOption cid) = .ok path := by
  rw [checkFull_ofOption_iff, normalize_ofOption_iff, matches_outlierReport]
  constructor
  · rintro ⟨hpath, ds, hd, rfl⟩
    cases cid with
    | none => exact absurd hpath.symm (item_ne_empty ds)
    | some s =>
      obtain rfl : s = item ds := hpath
      exact ⟨rfl, _, rfl, item_ne_empty ds, complete_item ds, ds, hd, rfl⟩
  · rintro ⟨rfl, -, -, -, -, hm⟩
    exact ⟨rfl, hm⟩

theorem normalize_of_normalize {cid : Option String} (h : r.normalize (.ofOption cid) = .ok path) :
    r.normalize (.text path) = .ok path := by
  obtain ⟨s, -, hs, rfl, hm⟩ := normalize_ofOption_iff.mp h
  rw [normalize_text (complete_ne_empty hs), complete_complete]
  exact accept_iff.mpr ⟨rfl, hm⟩

/-- The identifiers that stand for reports are numbers and full identifiers, which are also all that
a check takes as they are; any other one is refused. Whatever a resource makes of an identifier
begins with its collection, matches its pattern and is not changed any more. -/
theorem normalize_exact :
    (∀ cid : Option String,
      (∀ path, outlierReport.normalize (.ofOption cid) = .ok path ↔
        ∃ ds, Cid.IsRun Char.isDigit ds ∧ path = "/outlier_report/" ++ String.ofList ds ∧
          (cid = some (String.ofList ds) ∨ cid = some path)) ∧
      ((∀ path, outlierReport.normalize (.ofOption cid) ≠ .ok path) →
        outlierReport.normalize (.ofOption cid) = .error (outlierReport.refusal cid)) ∧
      (∀ path, outlierReport.checkFull (.ofOption cid) = .ok path ↔
        cid = some path ∧ outlierReport.normalize (.ofOption cid) = .ok path)) ∧
    ∀ (r : Resource) (cid : Option String) (path : String),
      r.normalize (.ofOption cid) = .ok path →
      r.collection.toList <+: path.toList ∧ Cid.Matches r.pattern path.toList ∧
        r.normalize (.text path) = .ok path := by
  refine ⟨fun cid => ⟨fun path => normalize_report_iff, normalize_refused,
    fun path => checkFull_report_iff⟩, fun r cid path h => ?_⟩
  obtain ⟨s, -, -, hs, hm⟩ := normalize_ofOption_iff.mp h
  exact ⟨hs ▸ r.prefix_complete s, hm, normalize_of_normalize h⟩

/-- A collection that the pattern allows but does not ask for, and a number on a line of its own. -/
theorem normalize_exact_bundle :
    let r := make .resource "/v2/check_bundle"
      (.optional "/v2".toList :: Cid.collectionOf "check_bundle") "check bundle" none
    r.normalize (.ofOption (some "12")) = .ok "/v2/check_bundle/12" ∧
    Cid.Matches r.pattern "/v2/check_bundle/12".toList ∧
    r.normalize (.text "/v2/check_bundle/12") = .ok "/v2/check_bundle/12" ∧
    outlierReport.normalize (.ofOption (some "12\n")) =
      .error (outlierReport.refusal (some "12\n")) := by
  intro r
  have haccepts : Cid.accepts r.pattern "/v2/check_bundle/12" = true := by decide +kernel
  have hcomplete : r.complete "12" = "/v2/check_bundle/12" := by decide +kernel
  have hok : r.normalize (.ofOption (some "12")) = .ok "/v2/check_bundle/12" :=
    normalize_ofOption_iff.mpr ⟨"12", rfl, by decide, hcomplete, Cid.accepts_iff.mp haccepts⟩
  obtain ⟨-, hm, hfixed⟩ := normalize_exact.2 r (some "12") _ hok
  have hno : ∀ path, outlierReport.normalize (.ofOption (some "12\n")) ≠ .ok path := by
    intro path h
    obtain ⟨s, hs, -, rfl, hm⟩ := normalize_ofOption_iff.mp h
    cases hs
    exact absurd (Cid.accepts_iff.mpr hm) (by decide +kernel)
  exact ⟨hok, hm, hfixed, (normalize_exact.1 (some "12\n")).2.1 hno⟩

end Outlier.Resource

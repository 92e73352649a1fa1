import Outlier.Proofs.Resource.Safety
import Outlier.Proofs.Search.Criteria

/-! Searches on the wire: their criteria are the query of the one address that is asked for. -/
namespace Outlier

namespace Search

theorem isPlain_of_isFormChar {c : Char} (h : isFormChar c = true) : Url.isPlain c = true := by
  have hmark : ∀ c ∈ "_.-~+%=&".toList, Url.isPlain c = true := List.all_eq_true.mp rfl
  have hother : (Url.pathMarks.any Char.isAlphanum) = false := rfl
  rcases Bool.or_eq_true _ _ ▸ h with h | h
  · have hno : c ∉ Url.pathMarks := fun hc => List.any_eq_false.mp hother c hc h
    have hval : c.toNat = c.val.toNat := rfl
    have hranges : (65 ≤ c.toNat ∧ c.toNat ≤ 90 ∨ 97 ≤ c.toNat ∧ c.toNat ≤ 122) ∨
        48 ≤ c.toNat ∧ c.toNat ≤ 57 := by
      have hparts : (decide (65 ≤ c.val ∧ c.val ≤ 90) || (97 ≤ c.val && c.val ≤ 122) ||
          (48 ≤ c.val && c.val ≤ 57)) = true := h
      simpa [UInt32.le_iff_toNat_le] using hparts
    have hascii : 0x20 ≤ c.toNat ∧ c.toNat < 0x7F := by omega
    simp [Url.isPlain, hascii, hno]
  · exact hmark c (by simpa using h)

/-- A text is no shorter for being encoded. -/
theorem length_le_encodeText (t : String) : t.length ≤ (encodeText t).length := by
  have hbyte (b : UInt8) : 1 ≤ (encodeByte b).length := by
    unfold encodeByte
    split
    · exact le_refl 1
    · split <;> simp
  have hbytes (bs : List UInt8) : bs.length ≤ (encodeBytes bs).length := by
    induction bs with
    | nil => exact le_refl 0
    | cons b bs ih =>
      have hb := hbyte b
      rw [encodeBytes, List.flatMap_cons, List.length_append, ← encodeBytes, List.length_cons]
      omega
  have hchars (s : List Char) : s.length ≤ (Utf8.encodeChars s).length := by
    induction s with
    | nil => exact le_refl 0
    | cons c s ih =>
      have hc : 1 ≤ (String.utf8EncodeChar c).length := by
        rw [String.length_utf8EncodeChar]
        exact c.utf8Size_pos
      rw [Utf8.encodeChars, List.flatMap_cons, List.length_append, ← Utf8.encodeChars,
        List.length_cons]
      omega
  exact (hchars t.toList).trans (hbytes _)

end Search

namespace Operation
variable {σ : Type} {r : Resource} {c : Client} {w : World σ} {s : σ}

theorem plan_given (r : Resource) (query : Option String) (filters : Pairs Search.Filter) :
    (search query (Search.given filters)).plan r =
      .ok (if (Search.ofTexts (Search.requested query filters)).isEmpty then .all r
        else ⟨"search", "searching " ++ r.plural, .get, r.collection ++ "?" ++
          Search.encode (Search.ofTexts (Search.requested query filters)), none, .records⟩) := by
  rw [plan, Search.criteria_given]
  rfl

/-- What a search asks for is found at the collection with the criteria behind it. -/
theorem plan_search (r : Resource) (query : Option String) (filters : Pairs Search.Filter) :
    ∃ form p, Search.Transmits (Search.requested query filters) form ∧
      (search query (Search.given filters)).plan r = .ok p ∧
      p.verb = .get ∧ p.path = r.collection ++ String.ofList (Url.led '?' form) ∧
      p.content = none := by
  by_cases h : Search.requested query filters = []
  · refine ⟨none, .all r, .nothing h, ?_, rfl, ?_, rfl⟩
    · rw [plan_given, h]
      rfl
    · exact (String.append_empty).symm
  · refine ⟨_, _, Search.transmits_encodeChars h, plan_given r query filters, ?_⟩
    have he : (Search.ofTexts (Search.requested query filters)).isEmpty = false := by
      simpa [Search.ofTexts] using h
    have hmark : String.ofList ['?'] = "?" := rfl
    simp only [he, Bool.false_eq_true, if_false, true_and, and_true]
    rw [String.append_assoc, ← hmark, Search.encode, ← String.ofList_append]
    rfl

/-- A search makes one request again and again: for the collection if there are no criteria, and
otherwise for the collection with their form behind it, which holds them by name. If that request
cannot be made there is none. Nothing else becomes part of the query of the address. -/
theorem search_transmits_criteria (r : Resource) (query : Option String)
    (filters : Pairs Search.Filter) (c : Client) (w : World σ) (s : σ) :
    let o := (search query (Search.given filters)).call.perform r c w s
    let requests := o.events.filterMap Event.request?
    ∃ form, Search.Transmits (Search.requested query filters) form ∧
      let path := r.collection ++ String.ofList (Url.led '?' form)
      match c.request .get path none with
      | .error f => requests = [] ∧ o.result = .error f
      | .ok q => (∃ n, requests = List.replicate (n + 1) q) ∧ q.verb = .get ∧ q.body = none ∧
        c.base.join path = .ok q.url ∧
        ∀ rest, r.collection.toList = '/' :: rest → Url.IsPlain rest none →
          c.base.withTarget (c.base.target ++ (rest ++ Url.led '?' form)) = .ok q.url ∧
          ('?' ∉ c.base.target → q.url.query = form) := by
  intro o requests
  obtain ⟨form, p, hform, hp, hverb, hpath, hcontent⟩ := plan_search r query filters
  refine ⟨form, hform, ?_⟩
  intro path
  have ho : o = p.run r c w s := perform_of_plan hp
  have hrequests : requests =
      (c.exchange .get path none w s).events.filterMap Event.request? := by
    rw [show requests = o.events.filterMap Event.request? from rfl, ho, Plan.requests_run, hverb,
      hcontent, hpath]
  cases hq : c.request .get path none with
  | error f =>
    refine ⟨hrequests.trans (Client.requests_exchange_refused hq), ?_⟩
    rw [ho]
    refine Plan.run_of_other (Client.request_error hq).foreign ?_
    rw [hverb, hcontent, hpath, Client.exchange_refused hq]
  | ok q =>
    obtain ⟨hv, hb, hj⟩ := Client.request_ok hq
    refine ⟨?_, hv, hb, hj, fun rest hcollection hplain => ?_⟩
    · rw [hrequests]
      exact Client.requests_exchange hq
    have hchars : path.toList = '/' :: rest ++ Url.led '?' form := by
      rw [String.toList_append, hcollection, String.toList_ofList]
    have hplain : Url.IsPlain rest form :=
      ⟨hplain.head, hplain.path, fun t ht c hc =>
        Search.isPlain_of_isFormChar (hform.isFormChar t ht c hc)⟩
    refine ⟨?_, fun hbase => Url.query_of_join hplain hchars hbase hj⟩
    rw [← Url.join_path hplain hchars (Url.defect?_of_join hj), hj]

/-- A query longer than any address is never sent. -/
theorem search_refused_of_long (r : Resource) (c : Client) (w : World σ) (s : σ) {query : String}
    (h : Url.longest < query.length) :
    let o := (search (some query) (Search.given [])).call.perform r c w s
    Search.requested (some query) [] = [("search", query)] ∧
      o.events.filterMap Event.request? = [] ∧
      o.result = .error (.trouble .invalidUrl "URL too long") := by
  intro o
  have hne : query ≠ "" := by
    rintro rfl
    cases h
  have hp := plan_given r (some query) []
  rw [Search.requested_query hne] at hp
  have ho : o = Plan.run r c _ w s := perform_of_plan hp
  have hlong : Url.longest < (r.collection ++ "?" ++
      Search.encode (Search.ofTexts [("search", query)])).toList.length := by
    have hle := Search.length_le_encodeText query
    have hencode : Search.encodeChars (Search.ofTexts [("search", query)]) =
        Search.encodeText "search" ++ '=' :: Search.encodeText query := by
      simp [Search.encodeChars, Search.sorted, Search.ofTexts, Search.encodePair,
        Search.encodeValue, Value.plain, List.intercalate]
    rw [String.toList_append, List.length_append, Search.encode, String.toList_ofList, hencode,
      List.length_append, List.length_cons]
    omega
  have hq : c.request .get (r.collection ++ "?" ++
      Search.encode (Search.ofTexts [("search", query)])) none =
        .error (Redirect.troubleOf .tooLong) := Client.request_of_defect (if_pos hlong)
  rw [ho]
  refine ⟨Search.requested_query hne, ?_, ?_⟩
  · rw [Plan.requests_run]
    exact Client.requests_exchange_refused hq
  · refine Plan.run_of_other (Client.request_error hq).foreign ?_
    exact congrArg Outcome.result (Client.exchange_refused hq)

/-- The criteria of a search are lost if its address is too long. -/
theorem search_not_transmitted :
    let query := String.ofList (List.replicate 65537 'a')
    let o := (search (some query) (Search.given [])).call.perform .outlierReport Client.sample
      (Script.world 0 0) [.response ⟨200, [], Utf8.encode "[]"⟩]
    Search.requested (some query) [] = [("search", query)] ∧
      o.events.filterMap Event.request? = [] ∧
      o.result = .error (.trouble .invalidUrl "URL too long") := by
  refine search_refused_of_long _ _ _ _ ?_
  rw [String.length_ofList, List.length_replicate]
  decide

end Operation
end Outlier

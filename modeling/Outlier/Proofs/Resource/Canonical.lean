import Outlier.Proofs.Resource.Agreement
import Outlier.Proofs.Resource.Search

/-! Canonical searches: the values under each name settle the path that is asked for, and the path
settles them. -/
namespace Outlier

namespace Search
variable {α β : Type} {ps qs : List (String × α)} {fs gs : Pairs Value}

/-! Criteria in the order of their names are settled by what they are under each name. -/

theorem mem_of_filter_eq (h : ∀ name, ps.filter (·.1 = name) = qs.filter (·.1 = name))
    {p : String × α} (hp : p ∈ ps) : p ∈ qs := by
  have hm : p ∈ ps.filter (·.1 = p.1) := List.mem_filter.mpr ⟨hp, decide_eq_true rfl⟩
  exact List.mem_of_mem_filter (h p.1 ▸ hm)

theorem eq_nil_of_filter_eq (h : ∀ name, [] = qs.filter (·.1 = name)) : [] = qs := by
  cases qs with
  | nil => rfl
  | cons q qs =>
    have hq := h q.1
    simp at hq

theorem eq_of_filter_eq (hps : ps.Pairwise fun p q => p.1 ≤ q.1)
    (hqs : qs.Pairwise fun p q => p.1 ≤ q.1)
    (h : ∀ name, ps.filter (·.1 = name) = qs.filter (·.1 = name)) : ps = qs := by
  induction ps generalizing qs with
  | nil => exact eq_nil_of_filter_eq h
  | cons p ps ih =>
    cases qs with
    | nil => exact (eq_nil_of_filter_eq fun name => (h name).symm).symm
    | cons q qs =>
      obtain ⟨hp, hptail⟩ := List.pairwise_cons.mp hps
      obtain ⟨hq, hqtail⟩ := List.pairwise_cons.mp hqs
      -- each head is found behind the other, so neither name comes first
      have hpq : p.1 ≤ q.1 := by
        rcases List.mem_cons.mp (mem_of_filter_eq (fun n => (h n).symm) List.mem_cons_self) with
          rfl | hm
        · exact String.le_refl _
        · exact hp q hm
      have hqp : q.1 ≤ p.1 := by
        rcases List.mem_cons.mp (mem_of_filter_eq h List.mem_cons_self) with rfl | hm
        · exact String.le_refl _
        · exact hq p hm
      have hname : q.1 = p.1 := String.le_antisymm hqp hpq
      have hhead := h p.1
      simp only [List.filter_cons, hname, decide_true, if_true] at hhead
      obtain ⟨rfl, htail⟩ := List.cons.inj hhead
      congr 1
      refine ih hptail hqtail fun name => ?_
      by_cases hn : p.1 = name
      · exact hn ▸ htail
      · have hrest := h name
        simpa only [List.filter_cons, hn, decide_false, Bool.false_eq_true, if_false] using hrest

theorem sort_eq_iff : ps.mergeSort (fun p q => p.1 ≤ q.1) = qs.mergeSort (fun p q => p.1 ≤ q.1) ↔
    ∀ name, ps.filter (·.1 = name) = qs.filter (·.1 = name) := by
  constructor
  · intro h name
    rw [← filter_sort ps, ← filter_sort qs, h]
  · intro h
    refine eq_of_filter_eq (pairwise_sort ps) (pairwise_sort qs) fun name => ?_
    rw [filter_sort, filter_sort, h name]

/-! Values by name. -/

/-- What every group stands for, under the name of the group. -/
def spread (f : β → List α) (groups : Pairs β) : List (String × α) :=
  groups.flatMap fun p => (f p.2).map (p.1, ·)

theorem filter_group (n name : String) (as : List α) :
    (as.map (n, ·)).filter (·.1 = name) = if n = name then as.map (n, ·) else [] := by
  by_cases h : n = name <;> simp [List.filter_map, Function.comp_def, h]

theorem filter_spread (f : β → List α) {groups : Pairs β} (h : groups.names.Nodup) (name : String) :
    (spread f groups).filter (·.1 = name) =
      (((groups.lookup name).map f).getD []).map (name, ·) := by
  induction groups with
  | nil => rfl
  | cons p groups ih =>
    obtain ⟨n, b⟩ := p
    obtain ⟨hn, hgroups⟩ := List.nodup_cons.mp h
    have hcons : spread f ((n, b) :: groups) = (f b).map (n, ·) ++ spread f groups :=
      List.flatMap_cons
    rw [hcons, List.filter_append, filter_group, ih hgroups, List.lookup_cons]
    by_cases he : n = name
    · subst he
      simp [Pairs.lookup_eq_none_of_not_mem hn]
    · have hname : (name == n) = false := beq_eq_false_iff_ne.mpr (Ne.symm he)
      simp [he, hname]

/-- Filters with the same names, each of them once, and the same values in order under each name. -/
structure IsRearranged (fs gs : Pairs Value) : Prop where
  left : fs.names.Nodup
  right : gs.names.Nodup
  same : ∀ name, (fs.lookup name).map values = (gs.lookup name).map values

theorem IsRearranged.symm (h : IsRearranged fs gs) : IsRearranged gs fs :=
  ⟨h.right, h.left, fun name => (h.same name).symm⟩

/-- Filters inserted in another order. -/
theorem IsRearranged.of_perm (hfs : fs.names.Nodup) (h : fs.Perm gs) : IsRearranged fs gs where
  left := hfs
  right := (h.map _).nodup_iff.mp hfs
  same name := by
    have hgs : gs.names.Nodup := (h.map _).nodup_iff.mp hfs
    have hlookup : fs.lookup name = gs.lookup name := by
      ext v
      constructor
      · exact fun hv => Pairs.lookup_of_mem hgs (h.subset (mem_of_lookup hv))
      · exact fun hv => Pairs.lookup_of_mem hfs (h.symm.subset (mem_of_lookup hv))
    rw [hlookup]

theorem filterCriteria_cons (n : String) (v : Value) (fs : Pairs Value) :
    filterCriteria ((n, v) :: fs) =
      (values v >>= fun vs => (vs.map (n, ·) ++ ·) <$> filterCriteria fs) := by
  simp only [filterCriteria, List.mapM_cons, bind_assoc, pure_bind, map_bind, map_pure]
  cases values v with
  | error m => rfl
  | ok vs => rfl

/-- Filters that can be taken for criteria are taken for the values under their names. -/
theorem filterCriteria_ok {ps : List (String × Value)} (h : filterCriteria fs = .ok ps) :
    ∃ groups : Pairs (List Value), ps = spread id groups ∧ groups.names = fs.names ∧
      ∀ name, (fs.lookup name).map values = (groups.lookup name).map .ok := by
  induction fs generalizing ps with
  | nil =>
    cases h
    exact ⟨[], rfl, rfl, fun _ => rfl⟩
  | cons p fs ih =>
    obtain ⟨n, v⟩ := p
    rw [filterCriteria_cons] at h
    obtain ⟨vs, hv, h⟩ := ok_of_bind h
    obtain ⟨rest, hrest, rfl⟩ := ok_of_map h
    obtain ⟨groups, rfl, hnames, hlookup⟩ := ih hrest
    refine ⟨(n, vs) :: groups, rfl, congrArg (n :: ·) hnames, fun name => ?_⟩
    rw [List.lookup_cons, List.lookup_cons]
    cases name == n with
    | true => exact congrArg some hv
    | false => exact hlookup name

theorem filterCriteria_of_values (h : ∀ f ∈ fs, ∃ vs, values f.2 = .ok vs) :
    ∃ ps, filterCriteria fs = .ok ps := by
  induction fs with
  | nil => exact ⟨[], rfl⟩
  | cons p fs ih =>
    obtain ⟨hp, hfs⟩ := List.forall_mem_cons.mp h
    obtain ⟨vs, hv⟩ := hp
    obtain ⟨ps, hps⟩ := ih hfs
    exact ⟨vs.map (p.1, ·) ++ ps, by rw [filterCriteria_cons, hv, hps]; rfl⟩

/-- Rearranged filters stand for the same criteria under each name. -/
theorem IsRearranged.filterCriteria_ok {ps : List (String × Value)} (h : IsRearranged fs gs)
    (hps : filterCriteria fs = .ok ps) :
    ∃ qs, filterCriteria gs = .ok qs ∧
      ∀ name, ps.filter (·.1 = name) = qs.filter (·.1 = name) := by
  obtain ⟨groups, rfl, hnames, hlookup⟩ := Search.filterCriteria_ok hps
  have hvalues : ∀ f ∈ gs, ∃ vs, values f.2 = .ok vs := by
    intro f hf
    have hsome := (h.same f.1).symm.trans (hlookup f.1)
    rw [Pairs.lookup_of_mem h.right hf] at hsome
    obtain ⟨vs, -, hvs⟩ := Option.map_eq_some_iff.mp hsome.symm
    exact ⟨vs, hvs.symm⟩
  obtain ⟨qs, hqs⟩ := filterCriteria_of_values hvalues
  obtain ⟨groups', rfl, hnames', hlookup'⟩ := Search.filterCriteria_ok hqs
  refine ⟨_, hqs, fun name => ?_⟩
  have hsame : groups.lookup name = groups'.lookup name :=
    Option.map_injective (fun _ _ => Except.ok.inj)
      ((hlookup name).symm.trans ((h.same name).trans (hlookup' name)))
  rw [filter_spread id (hnames ▸ h.left), filter_spread id (hnames' ▸ h.right), hsame]

/-- Rearranged filters are the same criteria in the order of names. -/
theorem IsRearranged.criteria_ok {query : Option String} {ps : List (String × Value)}
    (h : IsRearranged fs gs) (hps : criteria query fs = .ok ps) :
    ∃ qs, criteria query gs = .ok qs ∧ sorted ps = sorted qs := by
  obtain ⟨ps, hfilters, rfl⟩ := ok_of_map hps
  obtain ⟨qs, hqs, hfilter⟩ := h.filterCriteria_ok hfilters
  refine ⟨_, congrArg (_ <$> ·) hqs, sort_eq_iff.mpr fun name => ?_⟩
  rw [List.filter_append, List.filter_append, hfilter name]

/-- The texts that a search asks for under a name: a query goes before the filter of that name. -/
def asked (query : Option String) (filters : Pairs Filter) (name : String) : List String :=
  (if name = "search" then query.toList.filter (· ≠ "") else []) ++
    ((filters.lookup name).map Filter.texts).getD []

theorem filter_requested {filters : Pairs Filter} (h : filters.names.Nodup)
    (query : Option String) (name : String) :
    (requested query filters).filter (·.1 = name) = (asked query filters name).map (name, ·) := by
  have hspread := filter_spread Filter.texts h name
  rw [spread] at hspread
  rw [requested, List.filter_append, filter_group, hspread, asked, List.map_append]
  by_cases hn : name = "search"
  · simp [hn]
  · simp [hn, Ne.symm hn]

/-- What is asked for is settled by the query that transmits it. -/
theorem Transmits.asked_eq {query query' : Option String} {fs gs : Pairs Filter}
    {form : Option (List Char)} (hfs : fs.names.Nodup) (hgs : gs.names.Nodup)
    (h : Transmits (requested query fs) form) (h' : Transmits (requested query' gs) form)
    (name : String) : asked query fs name = asked query' gs name := by
  have hfilter : (requested query fs).filter (·.1 = name) =
      (requested query' gs).filter (·.1 = name) := by
    cases h with
    | nothing hnone =>
      cases h' with
      | nothing hnone' => rw [hnone, hnone']
    | form _ hd hq _ =>
      cases h' with
      | form _ hd' hq' _ =>
        obtain rfl := Option.some.inj (hd.symm.trans hd')
        rw [← hq.stable, ← hq'.stable]
  rw [filter_requested hfs, filter_requested hgs] at hfilter
  exact List.map_injective_iff.mpr (fun _ _ h => (Prod.mk.inj h).2) hfilter

theorem sorted_requested {query query' : Option String} {fs gs : Pairs Filter}
    (hfs : fs.names.Nodup) (hgs : gs.names.Nodup)
    (h : ∀ name, asked query fs name = asked query' gs name) :
    sorted (ofTexts (requested query fs)) = sorted (ofTexts (requested query' gs)) := by
  have hsort : byName (requested query fs) = byName (requested query' gs) :=
    sort_eq_iff.mpr fun name => by rw [filter_requested hfs, filter_requested hgs, h name]
  rw [sorted_ofTexts, sorted_ofTexts, hsort]

end Search

namespace Operation
variable {r : Resource} {query query' : Option String}

theorem plan_search_of_sorted {fs gs : Pairs Value} {ps qs : List (String × Value)}
    (hps : Search.criteria query fs = .ok ps) (hqs : Search.criteria query' gs = .ok qs)
    (h : Search.sorted ps = Search.sorted qs) :
    (search query fs).plan r = (search query' gs).plan r := by
  have hlength := congrArg List.length h
  rw [Search.sorted, Search.sorted, List.length_mergeSort, List.length_mergeSort] at hlength
  have hempty : ps.isEmpty = qs.isEmpty := by
    rw [Bool.eq_iff_iff, List.isEmpty_iff, List.isEmpty_iff, ← List.length_eq_zero_iff, hlength,
      List.length_eq_zero_iff]
  have hencode : Search.encode ps = Search.encode qs := by
    rw [Search.encode, Search.encodeChars, h, ← Search.encodeChars, ← Search.encode]
  rw [plan, plan, hps, hqs, mapError_ok, mapError_ok, ok_bind, ok_bind, hempty, hencode]

theorem plan_of_values {fs : Pairs Value} (h : ∀ f ∈ fs, ∃ vs, Search.values f.2 = .ok vs) :
    ∃ p, (search query fs).plan r = .ok p := by
  obtain ⟨ps, hps⟩ := Search.filterCriteria_of_values h
  have hcriteria : Search.criteria query fs = .ok (_ ++ ps) := congrArg (_ <$> ·) hps
  rw [plan, hcriteria]
  exact ⟨_, rfl⟩

theorem plan_of_isRearranged {fs gs : Pairs Value} {p : Plan} (h : Search.IsRearranged fs gs)
    (hp : (search query fs).plan r = .ok p) : (search query gs).plan r = .ok p := by
  obtain ⟨ps, hps, -⟩ := ok_of_bind hp
  have hps := ok_of_mapError hps
  obtain ⟨qs, hqs, hsorted⟩ := h.criteria_ok hps
  rw [← plan_search_of_sorted hps hqs hsorted, hp]

theorem led_injective {mark : Char} : Function.Injective (Url.led mark) := by
  intro s t h
  cases s <;> cases t <;> simp_all [Url.led]

/-- The query of every address that a search asks for transmits what the search is for. -/
theorem transmits_of_mem {σ : Type} {c : Client} {w : World σ} {s : σ} {fs : Pairs Search.Filter}
    {rest : List Char} {q : Request} (hcollection : r.collection.toList = '/' :: rest)
    (hplain : Url.IsPlain rest none) (hbase : '?' ∉ c.base.target)
    (hq : q ∈ ((search query (Search.given fs)).call.perform r c w s).events.filterMap
      Event.request?) : Search.Transmits (Search.requested query fs) q.url.query := by
  obtain ⟨form, p, hform, hp, -, hpath, -⟩ := plan_search r query fs
  have hjoin : c.base.join p.path = .ok q.url := Addresses.join ⟨p, hp, rfl⟩ hq
  have hchars : p.path.toList = '/' :: rest ++ Url.led '?' form := by
    rw [hpath, String.toList_append, hcollection, String.toList_ofList]
  have hplain : Url.IsPlain rest form :=
    ⟨hplain.head, hplain.path, fun t ht c hc =>
      Search.isPlain_of_isFormChar (hform.isFormChar t ht c hc)⟩
  rwa [Url.query_of_join hplain hchars hbase hjoin]

theorem search_path_iff {fs gs : Pairs Search.Filter} (hfs : fs.names.Nodup)
    (hgs : gs.names.Nodup) : ∃ path path',
    (search query (Search.given fs)).Addresses r path ∧
    (search query' (Search.given gs)).Addresses r path' ∧
    (path = path' ↔ ∀ name, Search.asked query fs name = Search.asked query' gs name) := by
  obtain ⟨form, p, hform, hp, -, hpath, -⟩ := plan_search r query fs
  obtain ⟨form', p', hform', hp', -, hpath', -⟩ := plan_search r query' gs
  refine ⟨_, _, ⟨p, hp, rfl⟩, ⟨p', hp', rfl⟩, fun h => ?_, fun h => ?_⟩
  · rw [hpath, hpath', String.append_right_inj, String.ofList_inj] at h
    obtain rfl := led_injective h
    exact hform.asked_eq hfs hgs hform'
  · have hplan := plan_search_of_sorted (r := r) (Search.criteria_given query fs)
      (Search.criteria_given query' gs) (Search.sorted_requested hfs hgs h)
    rw [hp, hp'] at hplan
    exact congrArg Plan.path (Except.ok.inj hplan)

/-- Filters rearranged by name are searched for at the same path, with the same outcome. Searches
for texts ask for one path if and only if they are for the same texts in order under each name, the
query being the first text under its name, and so do the addresses that reach the wire. -/
theorem search_path_canonical (r : Resource) (query : Option String) :
    (∀ fs gs, Search.IsRearranged fs gs →
      (∀ path, (search query fs).Addresses r path ↔ (search query gs).Addresses r path) ∧
      ((∀ f ∈ fs, ∃ vs, Search.values f.2 = .ok vs) →
        (∃ path, (search query fs).Addresses r path) ∧
        ∀ (σ : Type) (c : Client),
          ((search query fs).call.perform r c : Activity σ _) =
            (search query gs).call.perform r c)) ∧
    ∀ (query' : Option String) (fs gs : Pairs Search.Filter), fs.names.Nodup → gs.names.Nodup →
      let one := search query (Search.given fs)
      let other := search query' (Search.given gs)
      let same := ∀ name, Search.asked query fs name = Search.asked query' gs name
      (∃ path path', one.Addresses r path ∧ other.Addresses r path' ∧ (path = path' ↔ same)) ∧
      ∀ rest, r.collection.toList = '/' :: rest → Url.IsPlain rest none →
        ∀ (σ : Type) (c : Client) (w w' : World σ) (s s' : σ), '?' ∉ c.base.target →
        ∀ q ∈ (one.call.perform r c w s).events.filterMap Event.request?,
        ∀ q' ∈ (other.call.perform r c w' s').events.filterMap Event.request?,
          q.url = q'.url ↔ same := by
  refine ⟨fun fs gs h => ⟨fun path => ⟨?_, ?_⟩, fun hvalues => ?_⟩, ?_⟩
  · rintro ⟨p, hp, rfl⟩
    exact ⟨p, plan_of_isRearranged h hp, rfl⟩
  · rintro ⟨p, hp, rfl⟩
    exact ⟨p, plan_of_isRearranged h.symm hp, rfl⟩
  · obtain ⟨p, hp⟩ := plan_of_values hvalues
    refine ⟨⟨p.path, p, hp, rfl⟩, fun σ c => ?_⟩
    rw [perform_eq, perform_eq, hp, plan_of_isRearranged h hp]
  · intro query' fs gs hfs hgs one other same
    have hpaths : ∃ path path', one.Addresses r path ∧ other.Addresses r path' ∧
        (path = path' ↔ same) := search_path_iff hfs hgs
    refine ⟨hpaths, fun rest hcollection hplain σ c w w' s s' hbase q hq q' hq' => ⟨?_, ?_⟩⟩
    · intro hurl
      have hone := transmits_of_mem hcollection hplain hbase hq
      have hother := transmits_of_mem hcollection hplain hbase hq'
      exact hone.asked_eq hfs hgs (hurl ▸ hother)
    · intro hsame
      obtain ⟨path, path', hone, hother, hiff⟩ := hpaths
      obtain rfl := hiff.mpr hsame
      exact Except.ok.inj ((hone.join hq).symm.trans (hother.join hq'))

theorem search_path_canonical_report :
    let fs : Pairs Search.Filter := [("f", .many ["2", "1"]), ("search", .one "b")]
    let gs : Pairs Search.Filter := [("search", .many ["a", "b"]), ("f", .many ["2", "1"])]
    let swapped := (Search.given fs).reverse
    (∀ (σ : Type) (c : Client),
      ((search (some "a") (Search.given fs)).call.perform .outlierReport c : Activity σ _) =
        (search (some "a") swapped).call.perform .outlierReport c) ∧
    ∃ path, (search (some "a") (Search.given fs)).Addresses .outlierReport path ∧
      (search none (Search.given gs)).Addresses .outlierReport path := by
  intro fs gs swapped
  have hfs : fs.names.Nodup := by decide
  have hgs : gs.names.Nodup := by decide
  have h := search_path_canonical .outlierReport (some "a")
  constructor
  · have hrearranged : Search.IsRearranged (Search.given fs) swapped :=
      .of_perm (by decide) (List.reverse_perm _).symm
    have hvalues : ∀ f ∈ Search.given fs, ∃ vs, Search.values f.2 = .ok vs :=
      List.forall_mem_cons.mpr ⟨⟨_, rfl⟩, List.forall_mem_singleton.mpr ⟨_, rfl⟩⟩
    exact ((h.1 _ _ hrearranged).2 hvalues).2
  · obtain ⟨⟨path, path', hone, hother, hiff⟩, -⟩ := h.2 none fs gs hfs hgs
    have hsame (name : String) :
        Search.asked (some "a") fs name = Search.asked none gs name := by
      by_cases hsearch : name = "search"
      · subst hsearch
        rfl
      · by_cases hf : name = "f"
        · subst hf
          rfl
        · have hnone : name ∉ fs.names := by simp [fs, Pairs.names, hsearch, hf]
          have hnone' : name ∉ gs.names := by simp [gs, Pairs.names, hsearch, hf]
          rw [Search.asked, Search.asked, if_neg hsearch, if_neg hsearch,
            Pairs.lookup_eq_none_of_not_mem hnone, Pairs.lookup_eq_none_of_not_mem hnone']
    obtain rfl := hiff.mpr hsame
    exact ⟨path, hone, hother⟩

end Operation
end Outlier

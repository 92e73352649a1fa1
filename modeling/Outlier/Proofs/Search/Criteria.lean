import Outlier.Proofs.Search.Form

/-! What a search asks for, and the order in which it is written. -/
namespace Outlier.Search

/-- What a filter asks for under its name: one text, or several. -/
inductive Filter where
  | one (text : String)
  | many (texts : List String)

namespace Filter

def value : Filter → Value
  | .one t => .text t
  | .many ts => .list (ts.map .text)

def texts : Filter → List String
  | .one t => [t]
  | .many ts => ts

end Filter

/-- Filters by name, as a search is given them. -/
def given (filters : Pairs Filter) : Pairs Value := filters.map fun p => (p.1, p.2.value)

/-- A query that is not empty, and then every text of every filter. -/
def requested (query : Option String) (filters : Pairs Filter) : List (String × String) :=
  (query.toList.filter (· ≠ "")).map (("search", ·)) ++
    filters.flatMap fun p => p.2.texts.map (p.1, ·)

/-- Criteria rearranged by name alone: nothing is lost or added, and those of one name keep their
order. -/
structure IsByName (ps qs : List (String × String)) : Prop where
  perm : qs.Perm ps
  ordered : qs.Pairwise fun p q => p.1 ≤ q.1
  stable : ∀ name, qs.filter (·.1 = name) = ps.filter (·.1 = name)

/-- The query of an address that asks for criteria: their form, and none if there are none. -/
inductive Transmits (ps : List (String × String)) : Option (List Char) → Prop
  | nothing (h : ps = []) : Transmits ps none
  | form {t : List Char} {qs : List (String × String)} (h : ps ≠ []) (hd : decode? t = some qs)
    (hq : IsByName ps qs) (hc : ∀ c ∈ t, isFormChar c = true) : Transmits ps (some t)

theorem values_value (f : Filter) : values f.value = .ok (f.texts.map .text) := by
  cases f <;> rfl

theorem mapM_given (filters : Pairs Filter) :
    ((given filters).mapM fun p => (values p.2).map fun vs => vs.map (p.1, ·)) =
      .ok (filters.map fun p => ofTexts (p.2.texts.map (p.1, ·))) := by
  induction filters with
  | nil => rfl
  | cons p filters ih =>
    rw [given, List.map_cons, List.mapM_cons, ← given, ih, values_value]
    simp [ofTexts, bind, Except.bind, Except.map, pure, Except.pure, Function.comp_def]

theorem filterCriteria_given (filters : Pairs Filter) :
    filterCriteria (given filters) =
      .ok (ofTexts (filters.flatMap fun p => p.2.texts.map (p.1, ·))) := by
  rw [filterCriteria, mapM_given]
  simp only [bind, Except.bind, pure, Except.pure, ofTexts, List.flatMap_def, List.map_flatten,
    List.map_map, Function.comp_def]

theorem detail_search (query : Option String) :
    Subject.detail "search" (.ofOption query) =
      ofTexts ((query.toList.filter (· ≠ "")).map (("search", ·))) := by
  cases query with
  | none => rfl
  | some t =>
    by_cases h : t = "" <;> simp [Subject.detail, Value.ofOption, Value.isGiven, ofTexts, h]

theorem criteria_given (query : Option String) (filters : Pairs Filter) :
    criteria query (given filters) = .ok (ofTexts (requested query filters)) := by
  rw [criteria, filterCriteria_given, detail_search, requested]
  simp [ofTexts, Functor.map, Except.map]

theorem requested_query {query : String} (h : query ≠ "") :
    requested (some query) [] = [("search", query)] := by
  simp [requested, h]

section Sorting
variable {α : Type}

theorem le_trans_name (p q r : String × α) :
    decide (p.1 ≤ q.1) = true → decide (q.1 ≤ r.1) = true → decide (p.1 ≤ r.1) = true := by
  intro hpq hqr
  exact decide_eq_true (String.le_trans (of_decide_eq_true hpq) (of_decide_eq_true hqr))

theorem le_total_name (p q : String × α) :
    (decide (p.1 ≤ q.1) || decide (q.1 ≤ p.1)) = true := by
  simpa using String.le_total p.1 q.1

theorem pairwise_sort (ps : List (String × α)) :
    (ps.mergeSort fun p q => p.1 ≤ q.1).Pairwise fun p q => p.1 ≤ q.1 :=
  (List.pairwise_mergeSort le_trans_name le_total_name ps).imp of_decide_eq_true

/-- Sorting changes no list of criteria of one name: it is sorted as it is. -/
theorem filter_sort (ps : List (String × α)) (name : String) :
    (ps.mergeSort fun p q => p.1 ≤ q.1).filter (·.1 = name) = ps.filter (·.1 = name) := by
  have hsorted : (ps.filter (·.1 = name)).Pairwise fun p q => decide (p.1 ≤ q.1) = true := by
    refine List.pairwise_of_forall_mem_list fun p hp q hq => ?_
    have hp : p.1 = name := by simpa using (List.mem_filter.mp hp).2
    have hq : q.1 = name := by simpa using (List.mem_filter.mp hq).2
    rw [hp, hq]
    exact decide_eq_true (String.le_refl name)
  have hsub : (ps.filter (·.1 = name)).Sublist
      ((ps.mergeSort fun p q => p.1 ≤ q.1).filter (·.1 = name)) := by
    have h := List.sublist_mergeSort le_trans_name le_total_name hsorted List.filter_sublist
    simpa [List.filter_filter] using h.filter (·.1 = name)
  have hlen := ((List.mergeSort_perm ps fun p q => p.1 ≤ q.1).filter (·.1 = name)).length_eq
  exact (hsub.eq_of_length hlen.symm).symm

end Sorting

theorem isByName_byName (ps : List (String × String)) : IsByName ps (byName ps) where
  perm := List.mergeSort_perm _ _
  ordered := pairwise_sort ps
  stable := filter_sort ps

theorem transmits_encodeChars {ps : List (String × String)} (h : ps ≠ []) :
    Transmits ps (some (encodeChars (ofTexts ps))) :=
  .form h (decode?_encodeChars h) (isByName_byName ps) fun _ => isFormChar_of_mem

theorem Transmits.isFormChar {ps : List (String × String)} {form : Option (List Char)}
    (h : Transmits ps form) : ∀ t ∈ form, ∀ c ∈ t, isFormChar c = true := by
  intro t ht c hc
  cases h with
  | nothing => cases ht
  | form _ _ _ hall =>
    cases ht
    exact hall c hc

end Outlier.Search

import Mathlib.Data.List.TakeDrop

/-! Characters of texts that are joined by a mark. -/
namespace Outlier
variable {mark c : Char} {u : List Char} {us : List (List Char)}

theorem of_mem_intercalate (h : c ∈ List.intercalate [mark] us) : c = mark ∨ ∃ u ∈ us, c ∈ u := by
  induction us with
  | nil => cases h
  | cons u us ih =>
    cases us with
    | nil =>
      rw [List.intercalate_singleton] at h
      exact .inr ⟨u, List.mem_cons_self, h⟩
    | cons v us =>
      rw [List.intercalate_cons_cons, List.append_assoc] at h
      rcases List.mem_append.mp h with h | h
      · exact .inr ⟨u, List.mem_cons_self, h⟩
      rcases List.mem_cons.mp h with rfl | h
      · exact .inl rfl
      rcases ih h with rfl | ⟨x, hx, hc⟩
      · exact .inl rfl
      · exact .inr ⟨x, List.mem_cons_of_mem _ hx, hc⟩

theorem mem_intercalate_of_mem (hu : u ∈ us) (hc : c ∈ u) : c ∈ List.intercalate [mark] us := by
  induction us with
  | nil => cases hu
  | cons v us ih =>
    cases us with
    | nil =>
      rw [List.intercalate_singleton]
      exact List.mem_singleton.mp hu ▸ hc
    | cons x us =>
      rw [List.intercalate_cons_cons, List.append_assoc, List.mem_append]
      rcases List.mem_cons.mp hu with rfl | hu
      · exact .inl hc
      · exact .inr (List.mem_cons_of_mem _ (ih hu))

end Outlier

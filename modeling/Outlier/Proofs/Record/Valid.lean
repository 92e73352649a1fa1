import Outlier.Record.Validation

/-! What validation gives: every field holds a value of its shape. -/
namespace Outlier

/-- The values that are read for a shape. -/
inductive Shape.Holds : Shape → Value → Prop
  | noText : Holds .text .null
  | text (t : String) : Holds .text (.text t)
  | noInteger : Holds .integer .null
  | integer (n : Int) : Holds .integer (.int n)
  | labels (ts : List String) : Holds .labels (.list (ts.map .text))

namespace Shape
variable {s : Shape} {v x : Value}

theorem holds_default (s : Shape) : s.Holds s.default := by
  cases s
  · exact .noText
  · exact .noInteger
  · exact .labels []

theorem readLabels_ok {n : Nat} {items xs : List Value} (h : readLabels n items = .ok xs) :
    ∃ ts : List String, xs = ts.map .text := by
  induction items generalizing n xs with
  | nil =>
    cases h
    exact ⟨[], rfl⟩
  | cons v items ih =>
    rw [readLabels] at h
    cases hv : Coercion.text v <;> cases hr : readLabels (n + 1) items <;> simp only [hv, hr] at h
    all_goals cases h
    obtain ⟨ts, rfl⟩ := ih hr
    exact ⟨_ :: ts, rfl⟩

theorem single_ok {α : Type} {make : α → Value} {y : Coercion.Result α}
    (h : single make y = .ok x) : ∃ a, x = make a := by
  cases y with
  | error k => cases h
  | ok a => cases h; exact ⟨a, rfl⟩

theorem holds_of_read (h : s.read v = .ok x) : s.Holds x := by
  unfold read at h
  split at h
  · cases h
    exact holds_default _
  · obtain ⟨t, rfl⟩ := single_ok h
    exact .text t
  · obtain ⟨n, rfl⟩ := single_ok h
    exact .integer n
  · rename_i items
    cases hl : readLabels 0 items with
    | error is => rw [hl] at h; cases h
    | ok xs =>
      rw [hl] at h
      obtain ⟨ts, rfl⟩ := readLabels_ok hl
      cases h
      exact .labels ts
  · cases h

end Shape

namespace Record
variable {r : Record} {m : Model} {v : Value}

structure IsValid (r : Record) : Prop where
  holds : ∀ f : Field, f.shape.Holds (r.get f)
  outside : ∀ f : Field, f ∉ r.model.fields → r.get f = f.shape.default

theorem holds_of_readField {members : Pairs Value} {f : Field} {x : Value}
    (h : readField members f = .ok x) : f.shape.Holds x := by
  unfold readField at h
  split at h
  · cases h
    exact Shape.holds_default _
  · rename_i key v hs
    cases hr : f.shape.read v with
    | error is => rw [hr] at h; cases h
    | ok y =>
      rw [hr] at h
      cases h
      exact Shape.holds_of_read hr

theorem isValid_built (members : Pairs Value) (m : Model) : (built members m).IsValid := by
  constructor
  · intro f
    unfold built
    dsimp only
    split
    · cases hr : readField members f with
      | error is => exact Shape.holds_default _
      | ok x => exact holds_of_readField hr
    · exact Shape.holds_default _
  · intro f hf
    exact if_neg hf

theorem isValid_of_validate (h : validate m v = .ok r) : r.model = m ∧ r.IsValid := by
  unfold validate at h
  split at h
  · dsimp only at h
    split at h
    · cases h
      exact ⟨rfl, isValid_built _ m⟩
    · cases h
  · cases h

/-- A record that validation gives, of a value or of the bytes of a body. -/
def IsValidated (m : Model) (r : Record) : Prop :=
  (∃ v, ofValue m v = .ok r) ∨ ∃ body, ofBody m body = .ok r

theorem isValidated_built {members : Pairs Value}
    (h : (m.fields.flatMap fun f => issuesOf (readField members f)) = []) :
    IsValidated m (built members m) := by
  refine .inl ⟨.object members, ?_⟩
  rw [ofValue, validate, h]
  rfl

theorem ok_of_reject {α : Type} {title : String} {x : Except (List Issue) α} {a : α}
    (h : reject title x = .ok a) : x = .ok a := by
  cases x with
  | error is => cases h
  | ok b => cases h; rfl

theorem IsValidated.isValid (h : IsValidated m r) : r.model = m ∧ r.IsValid := by
  rcases h with ⟨v, h⟩ | ⟨body, h⟩
  · exact isValid_of_validate (ok_of_reject h)
  · have h := ok_of_reject h
    unfold readWith at h
    split at h
    · exact isValid_of_validate h
    · cases h

end Record
end Outlier

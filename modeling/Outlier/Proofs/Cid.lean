import Outlier.Cid

/-! The identifiers that a pattern accepts: one run of characters for each of its pieces. -/
namespace Outlier.Cid

/-- A non-empty run of characters of a class. -/
def IsRun (p : Char → Bool) (u : List Char) : Prop := u ≠ [] ∧ ∀ c ∈ u, p c = true

namespace Piece

/-- The runs that a piece stands for. -/
def Matches : Piece → List Char → Prop
  | .literal p, u => u = p
  | .optional p, u => u = [] ∨ u = p
  | .digits, u => IsRun Char.isDigit u
  | .digitsOr p, u => IsRun Char.isDigit u ∨ u = p
  | .remainder, u => IsRun isLineChar u

end Piece

/-- The texts that a pattern stands for. -/
def Matches : Pattern → List Char → Prop
  | [], s => s = []
  | p :: ps, s => ∃ u v, s = u ++ v ∧ p.Matches u ∧ Matches ps v

variable {s t : List Char}

theorem mem_afterLiteral {p : List Char} : t ∈ afterLiteral p s ↔ s = p ++ t := by
  induction p generalizing s with
  | nil => simp [afterLiteral, eq_comm]
  | cons e p ih =>
    cases s with
    | nil => simp [afterLiteral]
    | cons c s =>
      by_cases h : e = c
      · simp [afterLiteral, h, ih]
      · simp [afterLiteral, h, Ne.symm h]

theorem mem_afterRun {p : Char → Bool} : t ∈ afterRun p s ↔ ∃ u, s = u ++ t ∧ IsRun p u := by
  induction s with
  | nil =>
    simp only [afterRun, List.not_mem_nil, false_iff]
    rintro ⟨u, hs, hu, -⟩
    exact hu (List.append_eq_nil_iff.mp hs.symm).1
  | cons c s ih =>
    constructor
    · intro h
      rw [afterRun] at h
      split at h
      · rename_i hc
        rcases List.mem_cons.mp h with rfl | h
        · exact ⟨[c], rfl, List.cons_ne_nil _ _, by simpa using hc⟩
        · obtain ⟨u, rfl, -, hu⟩ := ih.mp h
          exact ⟨c :: u, rfl, List.cons_ne_nil _ _, by simpa using ⟨hc, hu⟩⟩
      · cases h
    · rintro ⟨u, hs, hne, hu⟩
      cases u with
      | nil => exact absurd rfl hne
      | cons e u =>
        obtain ⟨rfl, rfl⟩ := List.cons.inj hs
        rw [afterRun, if_pos (hu c List.mem_cons_self)]
        cases u with
        | nil => exact List.mem_cons_self
        | cons e u =>
          refine List.mem_cons_of_mem _ (ih.mpr ⟨e :: u, rfl, List.cons_ne_nil _ _, ?_⟩)
          exact fun d hd => hu d (List.mem_cons_of_mem _ hd)

theorem mem_rests_piece {p : Piece} : t ∈ p.rests s ↔ ∃ u, s = u ++ t ∧ p.Matches u := by
  cases p with
  | literal p => simp [Piece.rests, Piece.Matches, mem_afterLiteral]
  | optional p =>
    simp only [Piece.rests, List.mem_cons, mem_afterLiteral, Piece.Matches]
    constructor
    · rintro (rfl | rfl)
      · exact ⟨[], rfl, .inl rfl⟩
      · exact ⟨p, rfl, .inr rfl⟩
    · rintro ⟨u, rfl, rfl | rfl⟩
      · exact .inl rfl
      · exact .inr rfl
  | digits => exact mem_afterRun
  | digitsOr p =>
    simp only [Piece.rests, List.mem_append, mem_afterRun, mem_afterLiteral, Piece.Matches]
    constructor
    · rintro (⟨u, rfl, hu⟩ | rfl)
      · exact ⟨u, rfl, .inl hu⟩
      · exact ⟨p, rfl, .inr rfl⟩
    · rintro ⟨u, rfl, hu | rfl⟩
      · exact .inl ⟨u, rfl, hu⟩
      · exact .inr rfl
  | remainder => exact mem_afterRun

theorem mem_rests_from {ps : Pattern} {rs : List (List Char)} :
    t ∈ ps.foldl (fun rs p => rs.flatMap p.rests) rs ↔
      ∃ u, Matches ps u ∧ u ++ t ∈ rs := by
  induction ps generalizing rs with
  | nil => simp [Matches]
  | cons p ps ih =>
    simp only [List.foldl_cons, ih, List.mem_flatMap, mem_rests_piece, Matches]
    constructor
    · rintro ⟨v, hv, r, hr, u, rfl, hu⟩
      exact ⟨u ++ v, ⟨u, v, rfl, hu, hv⟩, by rwa [List.append_assoc]⟩
    · rintro ⟨_, ⟨u, v, rfl, hu, hv⟩, hr⟩
      exact ⟨v, hv, _, hr, u, List.append_assoc u v t, hu⟩

/-- A pattern accepts the texts that it stands for, and no others. -/
theorem accepts_iff {ps : Pattern} {cid : String} :
    accepts ps cid = true ↔ Matches ps cid.toList := by
  rw [accepts, List.contains_iff_mem, rests, mem_rests_from]
  simp

/-- The full identifiers of a collection end with a number. -/
theorem matches_collectionOf {name : String} :
    Matches (collectionOf name) s ↔
      ∃ ds, s = ('/' :: name.toList ++ ['/']) ++ ds ∧ IsRun Char.isDigit ds := by
  simp only [collectionOf, Matches, Piece.Matches]
  constructor
  · rintro ⟨u, v, rfl, rfl, ds, w, rfl, hd, rfl⟩
    exact ⟨ds, by rw [List.append_nil], hd⟩
  · rintro ⟨ds, rfl, hd⟩
    exact ⟨_, ds, rfl, rfl, ds, [], (List.append_nil ds).symm, hd, rfl⟩

end Outlier.Cid

import Outlier.Proofs.Cid

/-! The way in which patterns are usually written, and what it stands for. What is written for a
pattern stands for the texts that the pattern accepts. -/
namespace Outlier.Cid

/-- What patterns are written with. -/
inductive Expression where
  | nothing
  | start
  | finish
  | char (c : Char)
  | range (lo hi : Char)
  | any
  | both (e f : Expression)
  | either (e f : Expression)
  | optional (e : Expression)
  | repeated (e : Expression)
  deriving DecidableEq

/-- One or more stretches of a text, one after another. -/
inductive Repeats (p : List Char → List Char → List Char → Prop) :
    List Char → List Char → List Char → Prop
  | once {before u after : List Char} (h : p before u after) : Repeats p before u after
  | more {before u v after : List Char} (h : p before u (v ++ after))
    (hv : Repeats p (before ++ u) v after) : Repeats p before (u ++ v) after

namespace Expression

/-- The stretches of a text that an expression stands for, between what comes before and after. The
finish of a text is also before a line end that is its last character. -/
def Spans : Expression → List Char → List Char → List Char → Prop
  | .nothing, _, u, _ => u = []
  | .start, before, u, _ => u = [] ∧ before = []
  | .finish, _, u, after => u = [] ∧ (after = [] ∨ after = ['\n'])
  | .char c, _, u, _ => u = [c]
  | .range lo hi, _, u, _ => ∃ c, u = [c] ∧ lo ≤ c ∧ c ≤ hi
  | .any, _, u, _ => ∃ c, u = [c] ∧ c ≠ '\n'
  | .both e f, before, u, after =>
    ∃ v w, u = v ++ w ∧ e.Spans before v (w ++ after) ∧ f.Spans (before ++ v) w after
  | .either e f, before, u, after => e.Spans before u after ∨ f.Spans before u after
  | .optional e, before, u, after => u = [] ∨ e.Spans before u after
  | .repeated e, before, u, after => Repeats e.Spans before u after

/-- The whole of a text. -/
def Matches (e : Expression) (s : List Char) : Prop := e.Spans [] s []

/-- One expression after another. -/
def sequence : List Expression → Expression
  | [] => .nothing
  | e :: es => .both e (sequence es)

/-- A group that is being read: its alternatives so far and the parts of the one that is being read,
the latest first. -/
structure Group where
  alternatives : List Expression
  parts : List Expression

namespace Group

def empty : Group := ⟨[], []⟩

def push (g : Group) (e : Expression) : Group := { g with parts := e :: g.parts }

def next (g : Group) : Group := ⟨sequence g.parts.reverse :: g.alternatives, []⟩

def close (g : Group) : Expression :=
  g.alternatives.foldl (fun later e => .either e later) (sequence g.parts.reverse)

/-- What stands behind a part applies to it alone, and nothing else stands behind it then. -/
def modify? (f : Expression → Expression) (g : Group) : Option Group :=
  match g.parts with
  | [] | .optional _ :: _ | .repeated _ :: _ => none
  | e :: es => some { g with parts := f e :: es }

end Group

/-- Reads an expression within a group and the groups around it. -/
def readFrom (outer : List Group) (g : Group) : List Char → Option Expression
  | [] => if outer.isEmpty then some g.close else none
  | '^' :: s => readFrom outer (g.push .start) s
  | '$' :: s => readFrom outer (g.push .finish) s
  | '.' :: s => readFrom outer (g.push .any) s
  | '[' :: lo :: '-' :: hi :: ']' :: s => readFrom outer (g.push (.range lo hi)) s
  | '(' :: s => readFrom (g :: outer) .empty s
  | '|' :: s => readFrom outer g.next s
  | ')' :: s => match outer with
    | [] => none
    | h :: outer => readFrom outer (h.push g.close) s
  | '?' :: s => (g.modify? .optional).bind fun g => readFrom outer g s
  | '+' :: s => (g.modify? .repeated).bind fun g => readFrom outer g s
  | c :: s => if c ∈ "[]*\\\x7b\x7d".toList then none else readFrom outer (g.push (.char c)) s

def read (written : String) : Option Expression := readFrom [] .empty written.toList

variable {before u after s : List Char} {e : Expression} {es fs : List Expression}

theorem spans_append : (sequence (es ++ fs)).Spans before u after ↔
    ∃ v w, u = v ++ w ∧ (sequence es).Spans before v (w ++ after) ∧
      (sequence fs).Spans (before ++ v) w after := by
  induction es generalizing before u with
  | nil =>
    constructor
    · intro h
      exact ⟨[], u, rfl, rfl, by simpa using h⟩
    · rintro ⟨v, w, rfl, rfl, h⟩
      simpa using h
  | cons e es ih =>
    constructor
    · rintro ⟨x, _, rfl, he, hrest⟩
      obtain ⟨v, w, rfl, hes, hfs⟩ := ih.mp hrest
      rw [List.append_assoc] at he
      exact ⟨x ++ v, w, (List.append_assoc x v w).symm, ⟨x, v, rfl, he, hes⟩,
        by rwa [List.append_assoc] at hfs⟩
    · rintro ⟨_, w, rfl, ⟨x, v, rfl, he, hes⟩, hfs⟩
      rw [← List.append_assoc] at he hfs
      exact ⟨x, v ++ w, List.append_assoc x v w, by rwa [List.append_assoc] at he ⊢,
        ih.mpr ⟨v, w, rfl, hes, hfs⟩⟩

theorem spans_singleton : (sequence [e]).Spans before u after ↔ e.Spans before u after := by
  constructor
  · rintro ⟨v, w, rfl, he, rfl⟩
    simpa using he
  · intro h
    exact ⟨u, [], (List.append_nil u).symm, h, rfl⟩

/-! Anchors at the ends of an expression make no difference to whole texts. -/

theorem matches_start : (sequence (.start :: es)).Matches s ↔ (sequence es).Matches s := by
  constructor
  · rintro ⟨v, w, rfl, ⟨rfl, -⟩, h⟩
    exact h
  · intro h
    exact ⟨[], s, rfl, ⟨rfl, rfl⟩, h⟩

theorem matches_finish : (sequence (es ++ [.finish])).Matches s ↔ (sequence es).Matches s := by
  rw [Matches, spans_append]
  constructor
  · rintro ⟨v, w, rfl, hes, hfinish⟩
    obtain ⟨rfl, -⟩ := spans_singleton.mp hfinish
    simpa [Matches] using hes
  · intro h
    exact ⟨s, [], (List.append_nil s).symm, h, spans_singleton.mpr ⟨rfl, .inl rfl⟩⟩

/-- An expression with anchors at its ends or without. -/
def anchored (front back : Bool) (es : List Expression) : Expression :=
  sequence ((if front then [.start] else []) ++ es ++ if back then [.finish] else [])

theorem matches_anchored {front back : Bool} :
    (anchored front back es).Matches s ↔ (sequence es).Matches s := by
  cases front with
  | false => cases back with
    | false => simp [anchored]
    | true => exact matches_finish
  | true => cases back with
    | false => simpa [anchored] using matches_start
    | true => exact matches_start.trans matches_finish

theorem spans_literal {p : List Char} :
    (sequence (p.map .char)).Spans before u after ↔ u = p := by
  induction p generalizing before u with
  | nil => rfl
  | cons c p ih =>
    constructor
    · rintro ⟨v, w, rfl, rfl, hrest⟩
      rw [ih.mp hrest]
      rfl
    · rintro rfl
      exact ⟨[c], p, rfl, rfl, ih.mpr rfl⟩

/-- An expression for characters of a class spans the runs of it when it is repeated. -/
theorem spans_repeated {p : Char → Bool}
    (he : ∀ before u after, e.Spans before u after ↔ ∃ c, u = [c] ∧ p c = true) :
    (repeated e).Spans before u after ↔ IsRun p u := by
  constructor
  · intro h
    induction (h : Repeats e.Spans before u after) with
    | once h =>
      obtain ⟨c, rfl, hc⟩ := (he _ _ _).mp h
      exact ⟨List.cons_ne_nil _ _, by simpa using hc⟩
    | more h _ ih =>
      obtain ⟨c, rfl, hc⟩ := (he _ _ _).mp h
      exact ⟨List.cons_ne_nil _ _, List.forall_mem_cons.mpr ⟨hc, ih.2⟩⟩
  · rintro ⟨hne, hall⟩
    induction u generalizing before with
    | nil => exact absurd rfl hne
    | cons c u ih =>
      obtain ⟨hc, hu⟩ := List.forall_mem_cons.mp hall
      by_cases hnil : u = []
      · subst hnil
        exact .once ((he _ _ _).mpr ⟨c, rfl, hc⟩)
      · exact .more (u := [c]) ((he _ _ _).mpr ⟨c, rfl, hc⟩) (ih hnil hu)

theorem spans_digit (before u after : List Char) :
    (range '0' '9').Spans before u after ↔ ∃ c, u = [c] ∧ c.isDigit = true := by
  simp [Spans, Char.isDigit, Char.le_def]

theorem spans_any (before u after : List Char) :
    any.Spans before u after ↔ ∃ c, u = [c] ∧ isLineChar c = true := by
  simp [Spans, isLineChar]

end Expression

/-- How the pieces of a pattern are written. -/
def Piece.written : Piece → List Expression
  | .literal p => p.map .char
  | .optional p => [.optional (.sequence (p.map .char))]
  | .digits => [.repeated (.range '0' '9')]
  | .digitsOr p =>
    [.either (.sequence [.repeated (.range '0' '9')]) (.sequence (p.map .char))]
  | .remainder => [.repeated .any]

theorem spans_piece {p : Piece} {before u after : List Char} :
    (Expression.sequence p.written).Spans before u after ↔ p.Matches u := by
  cases p with
  | literal p => exact Expression.spans_literal
  | optional p =>
    exact Expression.spans_singleton.trans (or_congr Iff.rfl Expression.spans_literal)
  | digits =>
    exact Expression.spans_singleton.trans (Expression.spans_repeated Expression.spans_digit)
  | digitsOr p =>
    refine Expression.spans_singleton.trans (or_congr ?_ Expression.spans_literal)
    exact Expression.spans_singleton.trans (Expression.spans_repeated Expression.spans_digit)
  | remainder =>
    exact Expression.spans_singleton.trans (Expression.spans_repeated Expression.spans_any)

/-- What is written for a pattern stands for what the pattern does. -/
theorem spans_written {ps : Pattern} {before u after : List Char} :
    (Expression.sequence (ps.flatMap Piece.written)).Spans before u after ↔ Matches ps u := by
  induction ps generalizing before u with
  | nil => rfl
  | cons p ps ih =>
    rw [List.flatMap_cons, Expression.spans_append]
    simp only [spans_piece, ih, Matches]

/-- Read as it is written, a supported pattern is made of its pieces and of anchors at its ends. -/
theorem read_supported {written : String} {pattern : Pattern} (h : (written, pattern) ∈ supported) :
    ∃ front back,
      Expression.read written = some (.anchored front back (pattern.flatMap Piece.written)) := by
  simp only [supported, List.mem_cons, List.not_mem_nil, or_false, Prod.mk.injEq] at h
  rcases h with ⟨rfl, rfl⟩ | ⟨rfl, rfl⟩ | ⟨rfl, rfl⟩ | ⟨rfl, rfl⟩ | ⟨rfl, rfl⟩ | ⟨rfl, rfl⟩
  · exact ⟨true, true, rfl⟩
  · exact ⟨true, true, rfl⟩
  · exact ⟨false, false, rfl⟩
  · exact ⟨true, true, rfl⟩
  · exact ⟨true, true, rfl⟩
  · exact ⟨true, true, rfl⟩

end Outlier.Cid

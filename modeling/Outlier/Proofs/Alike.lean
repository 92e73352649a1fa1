import Outlier.Proofs.Activity

/-! Activities that look alike: two runs told apart at most by what is not seen of them. -/
namespace Outlier

variable {σ α β : Type}

/-- What is seen of an event, if anything. -/
abbrev Sight := Event → Option Event

/-- An outcome as it is seen: all of it, but of its events only what is seen of each. -/
def Outcome.seen (v : Sight) (o : Outcome σ α) : Outcome σ α :=
  { o with events := o.events.filterMap v }

theorem Outcome.seen_after (v : Sight) (es : List Event) (o : Outcome σ α) :
    (o.after es).seen v = (o.seen v).after (es.filterMap v) := by
  simp [seen, after, List.filterMap_append]

/-- Everything is seen as it is. -/
theorem Outcome.seen_some (o : Outcome σ α) : o.seen some = o := by
  simp [seen]

namespace Activity

/-- The first activity in one sight looks as the second one does in another, from every state. -/
def Alike (w : World σ) (v u : Sight) (x y : Activity σ α) : Prop :=
  ∀ s, (x w s).seen v = (y w s).seen u

variable {w : World σ} {v u : Sight} {x y : Activity σ α} {f g : α → Activity σ β}

theorem alike_pure (a : α) : (pure a : Activity σ α).Alike w v u (pure a) := fun _ => rfl

theorem alike_fail (e : Failure) : (fail e : Activity σ α).Alike w v u (fail e) := fun _ => rfl

theorem alike_ofExcept (r : Except Failure α) :
    (ofExcept r : Activity σ α).Alike w v u (ofExcept r) := by
  cases r with
  | ok a => exact alike_pure a
  | error e => exact alike_fail e

theorem alike_bind (h : x.Alike w v u y) (hf : ∀ a, (f a).Alike w v u (g a)) :
    (x >>= f).Alike w v u (y >>= g) := by
  intro s
  have hs := h s
  rcases hx : x w s with ⟨es, t, r⟩
  rcases hy : y w s with ⟨fs, t', r'⟩
  rw [hx, hy] at hs
  obtain ⟨hes, rfl, rfl⟩ := Outcome.mk.inj hs
  cases r with
  | error e =>
    rw [bind_of_error hx, bind_of_error hy]
    exact congrArg (Outcome.mk · t (.error e)) hes
  | ok a =>
    rw [bind_of_ok hx, bind_of_ok hy, Outcome.seen_after, Outcome.seen_after, hf a t]
    exact congrArg (Outcome.after · _) hes

theorem alike_map (h : x.Alike w v u y) (k : α → β) : (k <$> x).Alike w v u (k <$> y) := by
  rw [map_eq_pure_bind, map_eq_pure_bind]
  exact alike_bind h fun a => alike_pure (k a)

theorem alike_attempt (h : x.Alike w v u y) : x.attempt.Alike w v u y.attempt := by
  intro s
  obtain ⟨hes, ht, hr⟩ := Outcome.mk.inj (h s)
  simp only [attempt, Outcome.seen, hes, ht, hr]

theorem alike_note {logger : String} {severity : Severity} {message : String}
    (h : v (.logged (Row.plain logger severity message)) =
      u (.logged (Row.plain logger severity message))) :
    (note logger severity message : Activity σ Unit).Alike w v u
      (note logger severity message) := by
  intro s
  rw [note_apply, World.noted]
  split
  · simp [Outcome.seen, List.filterMap_cons, h]
  · rfl

theorem level_of_withContext {threshold n : Int} {logger message : String} {context : Pairs Value}
    {row : Row} (h : Row.withContext threshold logger (.int n) message context = .ok (some row)) :
    row.level = (Level.number n).label := by
  unfold Row.withContext at h
  dsimp only [Level.ofValue?] at h
  split at h
  · cases h
  · split at h
    · split at h
      · cases h
      · cases h
        rfl
    · cases h

theorem alike_noteWith {logger : String} {severity : Severity} {message : String}
    {context : Pairs Value}
    (h : ∀ row : Row, row.level = (Level.number severity.level).label →
      v (.logged row) = u (.logged row)) :
    (noteWith logger severity message context : Activity σ Unit).Alike w v u
      (noteWith logger severity message context) := by
  intro s
  unfold noteWith
  split
  · rename_i row hrow
    cases row with
    | none => rfl
    | some row => simp [Outcome.seen, List.filterMap_cons, h row (level_of_withContext hrow)]
  · rfl

theorem alike_draw : (draw : Activity σ Float).Alike w v u draw := fun _ => rfl

theorem alike_pause {p : Pause} (h : v (.slept p) = u (.slept p)) :
    (pause p : Activity σ Unit).Alike w v u (pause p) := by
  intro s
  simp [pause_apply, Outcome.seen, List.filterMap_cons, h]

/-- A note that is not seen may as well be left out. -/
theorem alike_of_hidden {logger : String} {severity : Severity} {message : String}
    {k l : Activity σ α} (h : v (.logged (Row.plain logger severity message)) = none)
    (hk : k.Alike w v u l) :
    (note logger severity message >>= fun _ => k).Alike w v u l := by
  intro s
  have hn : (w.noted logger severity message).filterMap v = [] := by
    rw [World.noted]
    split
    · simp [h]
    · rfl
  rw [note_bind, Outcome.seen_after, hn, hk s]
  rfl

end Activity
end Outlier

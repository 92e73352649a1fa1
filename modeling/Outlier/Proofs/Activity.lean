import Outlier.Exchange.Activity

/-! What activities do in a world, part by part, and what all of their events have in common. -/
namespace Outlier

variable {σ α β : Type}

section
variable {ε ε' : Type} {x : Except ε α} {a : α}

@[simp] theorem mapError_ok (g : ε → ε') (a : α) :
    (Except.ok a : Except ε α).mapError g = .ok a := rfl

@[simp] theorem mapError_error (g : ε → ε') (e : ε) :
    (Except.error e : Except ε α).mapError g = .error (g e) := rfl

theorem ok_of_mapError {g : ε → ε'} (h : x.mapError g = .ok a) : x = .ok a := by
  cases x with
  | error e => cases h
  | ok b => cases h; rfl

theorem error_of_mapError {g : ε → ε'} {e : ε'} (h : x.mapError g = .error e) :
    ∃ d, x = .error d ∧ e = g d := by
  cases x with
  | error d => cases h; exact ⟨d, rfl, rfl⟩
  | ok b => cases h

theorem ok_of_bind {f : α → Except ε β} {b : β} (h : x >>= f = .ok b) :
    ∃ a, x = .ok a ∧ f a = .ok b := by
  cases x with
  | error e => cases h
  | ok a => exact ⟨a, rfl, h⟩

theorem ok_of_map {f : α → β} {b : β} (h : f <$> x = .ok b) : ∃ a, x = .ok a ∧ f a = b := by
  cases x with
  | error e => cases h
  | ok a => exact ⟨a, rfl, Except.ok.inj h⟩

theorem ok_of_toOption (h : x.toOption = some a) : x = .ok a := by
  cases x with
  | error e => cases h
  | ok b => cases h; rfl

theorem error_of_bind {f : α → Except ε β} {e : ε} (h : x >>= f = .error e) :
    x = .error e ∨ ∃ a, x = .ok a ∧ f a = .error e := by
  cases x with
  | error d => cases h; exact .inl rfl
  | ok a => exact .inr ⟨a, rfl, h⟩

end

/-- An outcome behind events that came before it. -/
def Outcome.after (es : List Event) (o : Outcome σ α) : Outcome σ α :=
  { o with events := es ++ o.events }

@[simp] theorem Outcome.events_after (es : List Event) (o : Outcome σ α) :
    (o.after es).events = es ++ o.events := rfl

@[simp] theorem Outcome.state_after (es : List Event) (o : Outcome σ α) :
    (o.after es).state = o.state := rfl

@[simp] theorem Outcome.result_after (es : List Event) (o : Outcome σ α) :
    (o.after es).result = o.result := rfl

theorem Outcome.eq_of_result {o : Outcome σ α} {result : Except Failure α}
    (h : o.result = result) : o = ⟨o.events, o.state, result⟩ := by
  subst h
  rfl

/-- The rows of a note without context. -/
def World.noted (w : World σ) (logger : String) (severity : Severity) (message : String) :
    List Event :=
  if Row.enabled w.threshold severity.level then [.logged (Row.plain logger severity message)]
  else []

namespace Activity
variable {w : World σ} {s t : σ} {es : List Event} {a : α} {e : Failure} {x : Activity σ α}
  {f : α → Activity σ β}

theorem pure_apply (a : α) : (pure a : Activity σ α) w s = ⟨[], s, .ok a⟩ := rfl

theorem fail_apply : (fail e : Activity σ α) w s = ⟨[], s, .error e⟩ := rfl

theorem note_apply (logger : String) (severity : Severity) (message : String) :
    note logger severity message w s = ⟨w.noted logger severity message, s, .ok ()⟩ := by
  by_cases h : Row.enabled w.threshold severity.level = true <;> simp [note, World.noted, h]

theorem pause_apply (p : Pause) :
    pause p w s = ⟨[.slept p], s, match w.clock s p.seconds with
      | none => .ok ()
      | some d => .error d.failure⟩ := by
  unfold pause
  cases w.clock s p.seconds <;> rfl

theorem bind_of_ok (h : x w s = ⟨es, t, .ok a⟩) : (x >>= f) w s = (f a w t).after es := by
  simp only [bind, followedBy, h, Outcome.after]

theorem bind_of_error (h : x w s = ⟨es, t, .error e⟩) : (x >>= f) w s = ⟨es, t, .error e⟩ := by
  simp only [bind, followedBy, h]

theorem map_of_error {g : α → β} (h : x w s = ⟨es, t, .error e⟩) :
    (g <$> x) w s = ⟨es, t, .error e⟩ := by
  rw [map_eq_pure_bind, bind_of_error h]

theorem ofExcept_apply (r : Except Failure α) :
    (ofExcept r : Activity σ α) w s = ⟨[], s, r⟩ := by
  cases r <;> rfl

theorem note_bind (logger : String) (severity : Severity) (message : String)
    (f : Unit → Activity σ β) :
    (note logger severity message >>= f) w s =
      (f () w s).after (w.noted logger severity message) :=
  bind_of_ok (note_apply logger severity message)

/-- An attempt never fails by itself. -/
theorem attempt_bind (x : Activity σ α) (f : Except Failure α → Activity σ β) :
    (x.attempt >>= f) w s = (f (x w s).result w (x w s).state).after (x w s).events := rfl

theorem ofExcept_ok_bind (a : α) (f : α → Activity σ β) : ofExcept (.ok a) >>= f = f a := rfl

theorem ofExcept_error_bind (e : Failure) (f : α → Activity σ β) :
    ofExcept (.error e) >>= f = fail e := rfl

theorem error_of_bind (h : ((x >>= f) w s).result = .error e) :
    (x w s).result = .error e ∨ ∃ a, (x w s).result = .ok a ∧
      (f a w (x w s).state).result = .error e := by
  rcases hx : x w s with ⟨es, t, r⟩
  cases r with
  | error d =>
    rw [bind_of_error hx] at h
    cases h
    exact .inl rfl
  | ok a =>
    rw [bind_of_ok hx] at h
    exact .inr ⟨a, rfl, h⟩

theorem draw_bind (f : Float → Activity σ β) :
    (draw >>= f) w s = f (w.draw s).1 w (w.draw s).2 := by
  have hdraw : draw w s = ⟨[], (w.draw s).2, .ok (w.draw s).1⟩ := rfl
  exact bind_of_ok hdraw

theorem noteWith_error {logger : String} {severity : Severity} {message : String}
    {context : Pairs Value}
    (h : (noteWith logger severity message context w s).result = .error e) :
    ∃ m, e = .misuse m := by
  unfold noteWith at h
  split at h
  · cases h
  · cases h
    exact ⟨_, rfl⟩

/-! What holds of all that an activity leaves behind, in states that a world stays among. -/

end Activity

/-- States that a world never gets out of. -/
structure World.Keeps (w : World σ) (S : σ → Prop) : Prop where
  respond : ∀ s q, S s → S (w.respond s q).2
  draw : ∀ s, S s → S (w.draw s).2

theorem World.keeps_all (w : World σ) : w.Keeps fun _ => True :=
  ⟨fun _ _ _ => trivial, fun _ _ => trivial⟩

namespace Activity
variable {w : World σ} {a : α} {e : Failure} {x : Activity σ α} {f : α → Activity σ β}

def Leaves (w : World σ) (S : σ → Prop) (P : Event → Prop) (x : Activity σ α) : Prop :=
  ∀ s, S s → (∀ e ∈ (x w s).events, P e) ∧ S (x w s).state

variable {S : σ → Prop} {P : Event → Prop}

theorem leaves_pure (a : α) : Leaves w S P (pure a : Activity σ α) :=
  fun _ hs => ⟨nofun, hs⟩

theorem leaves_fail (e : Failure) : Leaves w S P (fail e : Activity σ α) :=
  fun _ hs => ⟨nofun, hs⟩

theorem leaves_ofExcept (r : Except Failure α) : Leaves w S P (ofExcept r : Activity σ α) := by
  cases r with
  | ok a => exact leaves_pure a
  | error e => exact leaves_fail e

theorem leaves_bind (hx : Leaves w S P x) (hf : ∀ a, Leaves w S P (f a)) :
    Leaves w S P (x >>= f) := by
  intro s hs
  rcases hr : x w s with ⟨es, t, r⟩
  obtain ⟨hes, ht⟩ : (∀ e ∈ es, P e) ∧ S t := by simpa [hr] using hx s hs
  cases r with
  | error d =>
    rw [bind_of_error hr]
    exact ⟨hes, ht⟩
  | ok a =>
    rw [bind_of_ok hr]
    obtain ⟨hfs, hu⟩ := hf a t ht
    refine ⟨fun e he => ?_, hu⟩
    rcases List.mem_append.mp he with he | he
    · exact hes e he
    · exact hfs e he

theorem leaves_attempt (h : Leaves w S P x) : Leaves w S P x.attempt := h

theorem leaves_send {q : Request} (hw : w.Keeps S) (h : P (.sent q)) :
    Leaves w S P (send q : Activity σ Reply) := by
  refine fun s hs => ⟨fun e he => ?_, hw.respond s q hs⟩
  cases List.mem_singleton.mp he
  exact h

theorem leaves_draw (hw : w.Keeps S) : Leaves w S P (draw : Activity σ Float) :=
  fun s hs => ⟨nofun, hw.draw s hs⟩

theorem leaves_pause {p : Pause} (h : P (.slept p)) :
    Leaves w S P (pause p : Activity σ Unit) := by
  intro s hs
  rw [pause_apply]
  refine ⟨fun e he => ?_, hs⟩
  cases List.mem_singleton.mp he
  exact h

theorem leaves_note {logger : String} {severity : Severity} {message : String}
    (h : P (.logged (Row.plain logger severity message))) :
    Leaves w S P (note logger severity message : Activity σ Unit) := by
  intro s hs
  rw [note_apply]
  refine ⟨fun e he => ?_, hs⟩
  rw [World.noted] at he
  split at he
  · cases List.mem_singleton.mp he
    exact h
  · cases he

theorem leaves_noteWith {logger : String} {severity : Severity} {message : String}
    {context : Pairs Value} (h : ∀ row, P (.logged row)) :
    Leaves w S P (noteWith logger severity message context : Activity σ Unit) := by
  intro s hs
  unfold noteWith
  split
  · refine ⟨fun e he => ?_, hs⟩
    obtain ⟨row, -, rfl⟩ := List.mem_map.mp he
    exact h row
  · exact ⟨nofun, hs⟩

end Activity
end Outlier

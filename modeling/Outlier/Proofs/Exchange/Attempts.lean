import Outlier.Exchange.Client
import Outlier.Proofs.Activity

/-! The retry loop: the attempts an exchange takes, and what each of them leaves behind. -/
namespace Outlier

namespace Event

def request? : Event → Option Request
  | .sent q => some q
  | _ => none

def pause? : Event → Option Pause
  | .slept p => some p
  | _ => none

/-- A row of a level, given by the level's name. -/
def row? (level : String) : Event → Option Row
  | .logged r => if r.level = level then some r else none
  | _ => none

end Event

namespace World
variable {σ : Type} (w : World σ) (q : Request)

/-- The state before each attempt, counted from 0, when a request is made again and again. -/
def stateAt : σ → Nat → σ
  | s, 0 => s
  | s, n + 1 => stateAt (w.draw (w.respond s q).2).2 n

def replyAt (s : σ) (n : Nat) : Reply := (w.respond (w.stateAt q s n) q).1

/-- The random number for the wait after an attempt. -/
def jitterAt (s : σ) (n : Nat) : Float := (w.draw (w.respond (w.stateAt q s n) q).2).1

variable (logger : String) (severity : Severity) (message : String)

@[simp] theorem requests_noted :
    (w.noted logger severity message).filterMap Event.request? = [] := by
  unfold noted
  split <;> rfl

@[simp] theorem pauses_noted :
    (w.noted logger severity message).filterMap Event.pause? = [] := by
  unfold noted
  split <;> rfl

theorem rows_noted (level : String) :
    (w.noted logger severity message).filterMap (Event.row? level) =
      if Row.enabled w.threshold severity.level ∧ severity.name = level then
        [Row.plain logger severity message]
      else [] := by
  unfold noted
  by_cases he : Row.enabled w.threshold severity.level = true <;>
    by_cases hl : severity.name = level <;> simp [Event.row?, Row.plain, he, hl]

end World

namespace Client

/-- The first attempt that the loop does not go on after, or else the last one there is, counted
from 0. -/
def lastAttempt (goesOn : Nat → Bool) (retries : Nat) : Nat :=
  ((List.range (retries + 1)).find? fun n => !goesOn n).getD retries

theorem lastAttempt_zero (goesOn : Nat → Bool) : lastAttempt goesOn 0 = 0 := by
  cases h : goesOn 0 <;> simp [lastAttempt, h]

theorem lastAttempt_succ (goesOn : Nat → Bool) (retries : Nat) :
    lastAttempt goesOn (retries + 1) =
      if goesOn 0 then lastAttempt (fun n => goesOn (n + 1)) retries + 1 else 0 := by
  unfold lastAttempt
  rw [List.range_succ_eq_map, List.find?_cons, List.find?_map]
  cases h : goesOn 0 with
  | false => simp
  | true =>
    simp only [Bool.not_true, if_true, Function.comp_def, Nat.succ_eq_add_one]
    cases (List.range (retries + 1)).find? fun n => !goesOn (n + 1) <;> rfl

theorem lastAttempt_of_not_goesOn {goesOn : Nat → Bool} (h : goesOn 0 = false)
    (retries : Nat) : lastAttempt goesOn retries = 0 := by
  cases retries with
  | zero => exact lastAttempt_zero goesOn
  | succ n => rw [lastAttempt_succ, h]; rfl

theorem lastAttempt_le (goesOn : Nat → Bool) (retries : Nat) :
    lastAttempt goesOn retries ≤ retries := by
  unfold lastAttempt
  cases h : (List.range (retries + 1)).find? fun n => !goesOn n with
  | none => exact Nat.le_refl retries
  | some n => exact Nat.le_of_lt_succ (List.mem_range.mp (List.mem_of_find?_eq_some h))

theorem goesOn_of_lt_lastAttempt (goesOn : Nat → Bool) {retries n : Nat}
    (h : n < lastAttempt goesOn retries) : goesOn n = true := by
  induction retries generalizing goesOn n with
  | zero =>
    rw [lastAttempt_zero] at h
    cases h
  | succ retries ih =>
    rw [lastAttempt_succ] at h
    split at h
    · rename_i h0
      cases n with
      | zero => exact h0
      | succ n => exact ih (fun n => goesOn (n + 1)) (Nat.lt_of_succ_lt_succ h)
    · cases h

/-- Throttling, a fault of the server or a failed exchange: the next attempt may be better. A
response whose text cannot be read does not count. -/
def mayPass : Except Failure Response → Bool
  | .ok r => (r.status == 429 || 500 ≤ r.status) && r.text.isOk
  | .error (.trouble t _) => t.isTransport
  | .error (.fault ⟨.response status .., _, _⟩ _) =>
    (Failure.isPassing status).toOption == some true
  | .error _ => false

variable {σ : Type} (c : Client) (verb : Verb) (path : String) (body : Option (List UInt8))

/-- An attempt by itself: the body of a response of success, or a failure. -/
def outcome : Except Failure Response → Except Failure (List UInt8)
  | .ok r => if r.isSuccess then .ok r.body else .error (responseFailure verb path r)
  | .error f => .error f

/-- The result of the attempt that is the last one. A status that is no number cannot be told from
one that may pass. -/
def ended : Except Failure (List UInt8) → Except Failure (List UInt8)
  | .ok content => .ok content
  | .error f => match f.isRetryable with
    | .ok _ => .error f
    | .error m => .error (.misuse m)

/-- What follows the last attempt. -/
def ending : Except Failure (List UInt8) → Activity σ (List UInt8)
  | .ok content => pure content
  | .error f => settle verb path f

/-- The cause that the row of a retry names. -/
def causeName (x : Except Failure Response) : String :=
  match outcome verb path x with
  | .ok _ => ""
  | .error f => reason f

/-- How a place in the client is named in front of a message. -/
def placed (place message : String) : String := journal ++ ":" ++ place ++ " - " ++ message

def retryMessage (retry : Nat) (x : Except Failure Response) : String :=
  line verb path ++ " retry " ++ toString retry ++ "/" ++ toString c.connection.maxRetries ++
    " after " ++ causeName verb path x

variable (w : World σ) (q : Request)

def noted (severity : Severity) (place message : String) : List Event :=
  w.noted journal severity (placed place message)

def attemptEvents (x : Except Failure Response) : List Event :=
  .sent q :: match x with
  | .ok r =>
    if c.debug then noted w .debug "_send" (line verb path ++ " -> " ++
      String.ofList (Numeral.ofInt r.status) ++ ": " ++ Excerpt.ofBody r.body)
    else []
  | .error _ => []

/-- The row about a retry, and the wait that the clock is asked for. -/
def retryEvents (p : Pause) (x : Except Failure Response) : List Event :=
  noted w .warning "_request" (c.retryMessage verb path p.retry x) ++ [.slept p]

variable (s : σ)

/-- The wait after an attempt, with the number of the retry after the first one. -/
def pauseAt (retry n : Nat) : Pause :=
  ⟨c.connection.shortestWait, c.connection.longestWait, w.jitterAt q s n, n + retry⟩

/-- What the clock has against the wait after an attempt. -/
def refusalAt (retry n : Nat) : Option Clock.Defect :=
  w.clock (w.stateAt q s (n + 1)) (c.pauseAt w q s retry n).seconds

/-- Whether the loop goes on after an attempt: it may pass, and the clock takes the wait. -/
def goesOn (retry n : Nat) : Bool :=
  mayPass (taken q (w.replyAt q s n)) && (c.refusalAt w q s retry n).isNone

/-- What the clock has against the wait after the last attempt, if there is to be one. -/
def refusedWait? (retry left : Nat) : Option Clock.Defect :=
  let last := lastAttempt (c.goesOn w q s retry) left
  if last < left && mayPass (taken q (w.replyAt q s last)) then c.refusalAt w q s retry last
  else none

/-- How many waits the clock is asked for. -/
def waitCount (retry left : Nat) : Nat :=
  lastAttempt (c.goesOn w q s retry) left + if (c.refusedWait? w q s retry left).isSome then 1 else 0

/-- What the loop leaves behind with so many retries left. -/
def attemptsEvents (retry left : Nat) : List Event :=
  let x (n : Nat) := taken q (w.replyAt q s n)
  let retried (n : Nat) := c.retryEvents verb path w (c.pauseAt w q s retry n) (x n)
  let last := lastAttempt (c.goesOn w q s retry) left
  ((List.range last).flatMap fun n => c.attemptEvents verb path w q (x n) ++ retried n) ++
    (c.attemptEvents verb path w q (x last) ++
      if (c.refusedWait? w q s retry left).isSome then retried last else [])

/-- The state after an attempt that is the last one. A random number is drawn if it may pass. -/
def stateAfter (n : Nat) : σ :=
  let t := (w.respond (w.stateAt q s n) q).2
  if mayPass (taken q (w.replyAt q s n)) then (w.draw t).2 else t

/-- What the loop comes to. -/
def attemptsResult (retry left : Nat) : Except Failure (List UInt8) :=
  match c.refusedWait? w q s retry left with
  | some d => .error d.failure
  | none =>
    ended (outcome verb path (taken q (w.replyAt q s (lastAttempt (c.goesOn w q s retry) left))))

variable {c verb path body w q s}

theorem mayPass_of_goesOn {retry n : Nat} (h : c.goesOn w q s retry n = true) :
    mayPass (taken q (w.replyAt q s n)) = true :=
  (Bool.and_eq_true_iff.mp h).1

theorem of_refusedWait? {retry left : Nat} (h : (c.refusedWait? w q s retry left).isSome = true) :
    lastAttempt (c.goesOn w q s retry) left < left ∧
      mayPass (taken q (w.replyAt q s (lastAttempt (c.goesOn w q s retry) left))) = true := by
  unfold refusedWait? at h
  dsimp only at h
  split at h
  next hlast => simpa using hlast
  · cases h

/-! What attempts leave behind, by kind of event. -/

@[simp] theorem requests_attemptEvents (x : Except Failure Response) :
    (c.attemptEvents verb path w q x).filterMap Event.request? = [q] := by
  cases x with
  | error f => rfl
  | ok r =>
    cases h : c.debug with
    | false =>
      simp only [attemptEvents, h, List.filterMap_cons, Event.request?]
      rfl
    | true =>
      simp only [attemptEvents, h, noted, List.filterMap_cons, Event.request?, if_true,
        World.requests_noted]

@[simp] theorem pauses_attemptEvents (x : Except Failure Response) :
    (c.attemptEvents verb path w q x).filterMap Event.pause? = [] := by
  cases x with
  | error f => rfl
  | ok r =>
    cases h : c.debug with
    | false =>
      simp only [attemptEvents, h, List.filterMap_cons, Event.pause?]
      rfl
    | true =>
      simp only [attemptEvents, h, noted, List.filterMap_cons, Event.pause?, if_true,
        World.pauses_noted]

/-- The rows of an attempt itself are for debugging. -/
theorem rows_attemptEvents {level : String} (hl : level ≠ Severity.debug.name)
    (x : Except Failure Response) :
    (c.attemptEvents verb path w q x).filterMap (Event.row? level) = [] := by
  cases x with
  | error f => rfl
  | ok r =>
    cases h : c.debug
    · simp only [attemptEvents, h]; rfl
    · simp only [attemptEvents, h, noted, List.filterMap_cons, Event.row?, if_true,
        World.rows_noted, hl.symm, and_false, if_false]

@[simp] theorem requests_retryEvents (p : Pause) (x : Except Failure Response) :
    (c.retryEvents verb path w p x).filterMap Event.request? = [] := by
  rw [retryEvents, List.filterMap_append, noted, World.requests_noted]
  rfl

@[simp] theorem pauses_retryEvents (p : Pause) (x : Except Failure Response) :
    (c.retryEvents verb path w p x).filterMap Event.pause? = [p] := by
  rw [retryEvents, List.filterMap_append, noted, World.pauses_noted]
  rfl

theorem rows_retryEvents (level : String) (p : Pause) (x : Except Failure Response) :
    (c.retryEvents verb path w p x).filterMap (Event.row? level) =
      if Row.enabled w.threshold Severity.warning.level ∧ Severity.warning.name = level then
        [Row.plain journal .warning (placed "_request" (c.retryMessage verb path p.retry x))]
      else [] := by
  rw [retryEvents, List.filterMap_append, noted, World.rows_noted]
  exact List.append_nil _

theorem isPassing_int (n : Int) : Failure.isPassing (.int n) = .ok (n == 429 || 500 ≤ n) := rfl

/-- Whether a failure is retried is a question of what was taken in alone. -/
theorem mayPass_eq (verb : Verb) (path : String) (x : Except Failure Response) :
    mayPass x = match outcome verb path x with
      | .ok _ => false
      | .error f => f.isRetryable.toOption == some true := by
  cases x with
  | error f =>
    cases f with
    | fault f cause =>
      obtain ⟨subject, message, details⟩ := f
      cases subject <;> rfl
    | trouble t m => cases h : t.isTransport <;>
        simp [mayPass, outcome, Failure.isRetryable, h, Except.toOption]
    | _ => rfl
  | ok r =>
    by_cases hs : r.isSuccess = true
    · have : ¬ (r.status = 429 ∨ 500 ≤ r.status) := by
        simp only [Response.isSuccess, Bool.and_eq_true, decide_eq_true_eq] at hs
        omega
      simp [mayPass, outcome, hs, this]
    · cases ht : r.text with
      | error u =>
        simp [mayPass, outcome, hs, ht, responseFailure, Failure.isRetryable, Except.isOk,
          Except.toBool, Except.toOption]
      | ok text =>
        simp [mayPass, outcome, hs, ht, responseFailure, Failure.isRetryable, Fault.response,
          Fault.make, isPassing_int, Except.isOk, Except.toBool, Except.toOption]

theorem note_bind {α : Type} (severity : Severity) (place message : String)
    (f : Unit → Activity σ α) :
    (note severity place message >>= f) w s = (f () w s).after (noted w severity place message) :=
  Activity.note_bind ..

theorem sendOnce_apply (hq : c.request verb path body = .ok q) :
    c.sendOnce verb path body w s =
      ⟨c.attemptEvents verb path w q (taken q (w.respond s q).1), (w.respond s q).2,
        outcome verb path (taken q (w.respond s q).1)⟩ := by
  have hsend : Activity.send q w s = ⟨[.sent q], (w.respond s q).2, .ok (w.respond s q).1⟩ := rfl
  rw [sendOnce, hq, Activity.ofExcept_ok_bind, Activity.bind_of_ok hsend]
  cases hx : taken q (w.respond s q).1 with
  | error f => rfl
  | ok r =>
    simp only [Activity.ofExcept_ok_bind, attemptEvents, outcome]
    cases c.debug with
    | false => cases r.isSuccess <;> rfl
    | true =>
      simp only [if_true, note_bind]
      cases r.isSuccess <;> simp [Outcome.after, Activity.fail_apply, Activity.pure_apply]

theorem attemptOr_apply (hq : c.request verb path body = .ok q)
    (next : Failure → Activity σ (List UInt8)) :
    let x := taken q (w.respond s q).1
    let t := (w.respond s q).2
    c.attemptOr verb path body next w s = Outcome.after (c.attemptEvents verb path w q x)
      (match outcome verb path x with
      | .ok content => ⟨[], t, .ok content⟩
      | .error f => match f.isRetryable with
        | .ok true => next f w t
        | .ok false => ⟨[], t, .error f⟩
        | .error m => ⟨[], t, .error (.misuse m)⟩) := by
  intro x t
  rw [attemptOr, Activity.attempt_bind, sendOnce_apply hq]
  cases hx : outcome verb path x with
  | ok content => rfl
  | error f =>
    cases hf : f.isRetryable with
    | error m => simp only [hf, mapError_error, Activity.ofExcept_error_bind]; rfl
    | ok b =>
      simp only [hf, mapError_ok, Activity.ofExcept_ok_bind]
      cases b <;> rfl

/-- An attempt that may not pass, or that none is left after, ends the loop. -/
theorem attempts_stop (hq : c.request verb path body = .ok q) {retry left : Nat}
    (h : left = 0 ∨ mayPass (taken q (w.respond s q).1) = false) :
    c.attempts verb path body retry left w s =
      ⟨c.attemptEvents verb path w q (taken q (w.respond s q).1), stateAfter w q s 0,
        ended (outcome verb path (taken q (w.respond s q).1))⟩ := by
  have hstate : stateAfter w q s 0 = if mayPass (taken q (w.respond s q).1) then
      (w.draw (w.respond s q).2).2 else (w.respond s q).2 := rfl
  rw [mayPass_eq verb path] at h hstate
  rw [hstate]
  have next : ∃ next, c.attempts verb path body retry left =
      c.attemptOr (σ := σ) verb path body next ∧
        (left = 0 → next = fun f => Activity.draw >>= fun _ => .fail f) := by
    cases left with
    | zero => exact ⟨_, rfl, fun _ => rfl⟩
    | succ left => exact ⟨_, rfl, nofun⟩
  obtain ⟨next, hn, hz⟩ := next
  rw [hn, attemptOr_apply hq]
  cases hx : outcome verb path (taken q (w.respond s q).1) with
  | ok content => simp [ended, Outcome.after]
  | error f =>
    simp only [hx] at h
    cases hf : f.isRetryable with
    | error m => simp [ended, hf, Outcome.after, Except.toOption]
    | ok b =>
      cases b with
      | false => simp [ended, hf, Outcome.after, Except.toOption]
      | true =>
        rcases h with h | h
        · simp [ended, hf, hz h, Outcome.after, Activity.draw_bind, Activity.fail_apply,
            Except.toOption]
        · simp [hf, Except.toOption] at h

/-- An attempt that may pass is followed by a row and a wait, and by the rest of the loop if the
clock takes the wait. -/
theorem attempts_retry (hq : c.request verb path body = .ok q) (retry left : Nat)
    (h : mayPass (taken q (w.respond s q).1) = true) :
    let t := (w.draw (w.respond s q).2).2
    c.attempts verb path body retry (left + 1) w s =
      Outcome.after (c.attemptEvents verb path w q (taken q (w.respond s q).1) ++
          c.retryEvents verb path w (c.pauseAt w q s retry 0) (taken q (w.respond s q).1))
        (match c.refusalAt w q s retry 0 with
        | some d => ⟨[], t, .error d.failure⟩
        | none => c.attempts verb path body (retry + 1) left w t) := by
  intro t
  rw [mayPass_eq verb path] at h
  have hrefusal : c.refusalAt w q s retry 0 = w.clock t (c.pauseAt w q s retry 0).seconds := rfl
  rw [attempts, attemptOr_apply hq, hrefusal, show c.pauseAt w q s retry 0 =
    ⟨c.connection.shortestWait, c.connection.longestWait, (w.draw (w.respond s q).2).1, retry⟩ by
      rw [pauseAt, Nat.zero_add]; rfl]
  cases hx : outcome verb path (taken q (w.respond s q).1) with
  | ok content => simp [hx] at h
  | error f =>
    cases hf : f.isRetryable with
    | error m => simp [hx, hf, Except.toOption] at h
    | ok b =>
      obtain rfl : b = true := by simpa [hx, hf, Except.toOption] using h
      simp only [hf]
      rw [Activity.draw_bind, note_bind]
      generalize hjitter : (w.draw (w.respond s q).2).1 = jitter
      have hpause := Activity.pause_apply (w := w) (s := t)
        ⟨c.connection.shortestWait, c.connection.longestWait, jitter, retry⟩
      cases hd : w.clock t (Pause.seconds ⟨c.connection.shortestWait, c.connection.longestWait,
          jitter, retry⟩) with
      | none =>
        rw [hd] at hpause
        rw [Activity.bind_of_ok hpause]
        simp [Outcome.after, retryEvents, retryMessage, causeName, hx, t]
      | some d =>
        rw [hd] at hpause
        rw [Activity.bind_of_error hpause]
        simp [Outcome.after, retryEvents, retryMessage, causeName, hx]

/-! The rest of the loop is a loop from the next state on. -/

section
variable {t : σ} (ht : (w.draw (w.respond s q).2).2 = t)
include ht

theorem replyAt_succ (n : Nat) : w.replyAt q s (n + 1) = w.replyAt q t n := by
  subst ht
  rfl

theorem pauseAt_succ (retry n : Nat) :
    c.pauseAt w q s retry (n + 1) = c.pauseAt w q t (retry + 1) n := by
  subst ht
  have hn : n + 1 + retry = n + (retry + 1) := by omega
  rw [pauseAt, hn]
  rfl

theorem refusalAt_succ (retry n : Nat) :
    c.refusalAt w q s retry (n + 1) = c.refusalAt w q t (retry + 1) n := by
  rw [refusalAt, refusalAt, pauseAt_succ ht]
  subst ht
  rfl

theorem goesOn_succ (retry n : Nat) :
    c.goesOn w q s retry (n + 1) = c.goesOn w q t (retry + 1) n := by
  rw [goesOn, goesOn, replyAt_succ ht, refusalAt_succ ht]

variable {retry left : Nat} (hgo : c.goesOn w q s retry 0 = true)
include hgo

theorem lastAttempt_goesOn_succ : lastAttempt (c.goesOn w q s retry) (left + 1) =
    lastAttempt (c.goesOn w q t (retry + 1)) left + 1 := by
  simp only [lastAttempt_succ, hgo, if_true, goesOn_succ ht]

theorem refusedWait?_succ :
    c.refusedWait? w q s retry (left + 1) = c.refusedWait? w q t (retry + 1) left := by
  simp only [refusedWait?, lastAttempt_goesOn_succ ht hgo, replyAt_succ ht, refusalAt_succ ht,
    Nat.add_lt_add_iff_right]

theorem attemptsResult_succ : c.attemptsResult verb path w q s retry (left + 1) =
    c.attemptsResult verb path w q t (retry + 1) left := by
  simp only [attemptsResult, refusedWait?_succ ht hgo, lastAttempt_goesOn_succ ht hgo,
    replyAt_succ ht]

theorem attemptsEvents_succ : c.attemptsEvents verb path w q s retry (left + 1) =
    c.attemptEvents verb path w q (taken q (w.respond s q).1) ++
      c.retryEvents verb path w (c.pauseAt w q s retry 0) (taken q (w.respond s q).1) ++
      c.attemptsEvents verb path w q t (retry + 1) left := by
  have hreply : w.replyAt q s 0 = (w.respond s q).1 := rfl
  simp only [attemptsEvents, refusedWait?_succ ht hgo, lastAttempt_goesOn_succ ht hgo,
    List.range_succ_eq_map, List.flatMap_cons, List.flatMap_map, List.append_assoc,
    Nat.succ_eq_add_one, replyAt_succ ht, pauseAt_succ ht, hreply]

end

theorem attempts_apply (hq : c.request verb path body = .ok q) (retry left : Nat) :
    c.attempts verb path body retry left w s =
      ⟨c.attemptsEvents verb path w q s retry left,
        stateAfter w q s (lastAttempt (c.goesOn w q s retry) left),
        c.attemptsResult verb path w q s retry left⟩ := by
  have hreply (s : σ) : w.replyAt q s 0 = (w.respond s q).1 := rfl
  induction left generalizing retry s with
  | zero =>
    rw [attempts_stop hq (.inl rfl)]
    simp [lastAttempt_zero, attemptsEvents, attemptsResult, refusedWait?, hreply]
  | succ left ih =>
    cases hp : mayPass (taken q (w.respond s q).1) with
    | false =>
      have hgo : c.goesOn w q s retry 0 = false := by rw [goesOn, hreply, hp, Bool.false_and]
      rw [attempts_stop hq (.inr hp)]
      simp [lastAttempt_of_not_goesOn hgo, attemptsEvents, attemptsResult, refusedWait?, hreply, hp]
    | true =>
      rw [attempts_retry hq retry left hp]
      cases hd : c.refusalAt w q s retry 0 with
      | some d =>
        have hgo : c.goesOn w q s retry 0 = false := by rw [goesOn, hd]; exact Bool.and_false _
        simp [lastAttempt_of_not_goesOn hgo, attemptsEvents, attemptsResult, refusedWait?, hreply,
          hp, hd, stateAfter, Outcome.after, World.stateAt]
      | none =>
        have hgo : c.goesOn w q s retry 0 = true := by rw [goesOn, hreply, hp, hd]; rfl
        simp only [ih (retry + 1), lastAttempt_goesOn_succ rfl hgo, attemptsEvents_succ rfl hgo,
          attemptsResult_succ rfl hgo, Outcome.after]
        rfl

end Client
end Outlier

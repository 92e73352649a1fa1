import Outlier.Proofs.Exchange.Plain

/-! Exchanges as a whole. The last attempt decides the result; those before it leave behind one row
and one wait each. -/
namespace Outlier.Client

variable {σ : Type} {c : Client} {verb : Verb} {path : String} {body : Option (List UInt8)}
  {w : World σ} {q : Request} {s : σ}

/-- The fault of an exchange that the HTTP layer could not complete. -/
def transportFault (verb : Verb) (path message : String) : Fault :=
  .make (.transport (.text verb.name) (.text path))
    (.text (line verb path ++ " failed: " ++ message)) []

def settled (verb : Verb) (path : String) : Failure → Failure
  | .trouble t message =>
    if t.isTransport then
      .fault (transportFault verb path message) (some (.trouble t message))
    else .trouble t message
  | f => f

def settleEvents (w : World σ) (verb : Verb) (path : String) : Failure → List Event
  | .trouble t message =>
    if t.isTransport then noted w .error "_request" (line verb path ++ " failed: " ++ message)
    else []
  | .fault ⟨.response status .., _, _⟩ _ =>
    noted w .error "_request" (line verb path ++ " -> " ++ status.plain)
  | _ => []

def openingEvents (c : Client) (w : World σ) (verb : Verb) (path : String) :
    Option (List UInt8) → List Event
  | some content =>
    if c.debug then
      noted w .debug "_request" (line verb path ++ " body: " ++ Excerpt.ofBody content)
    else []
  | none => []

/-- The result of an exchange, from what its last attempt took in. -/
def concluded (verb : Verb) (path : String) (x : Except Failure Response) :
    Except Failure (List UInt8) :=
  (ended (outcome verb path x)).mapError (settled verb path)

def closingEvents (w : World σ) (verb : Verb) (path : String) (x : Except Failure Response) :
    List Event :=
  match ended (outcome verb path x) with
  | .ok _ => []
  | .error f => settleEvents w verb path f

theorem settle_apply (f : Failure) :
    settle verb path f w s = ⟨settleEvents w verb path f, s, .error (settled verb path f)⟩ := by
  cases f with
  | trouble t message =>
    by_cases h : t.isTransport = true
    · simp only [settle, settleEvents, settled, h, if_true, note_bind]
      simp [Outcome.after, Activity.fail_apply, transportFault]
    · simp [settle, settleEvents, settled, h, Activity.fail_apply]
  | fault f cause =>
    obtain ⟨subject, message, details⟩ := f
    cases subject with
    | response status body method route =>
      simp only [settle, settleEvents, settled, note_bind]
      simp [Outcome.after, Activity.fail_apply]
    | _ => rfl
  | _ => rfl

/-- The outcome of attempts with its failure settled. -/
def settledOutcome (w : World σ) (verb : Verb) (path : String) (o : Outcome σ (List UInt8)) :
    Outcome σ (List UInt8) :=
  match o.result with
  | .ok _ => o
  | .error f => ⟨o.events ++ settleEvents w verb path f, o.state, .error (settled verb path f)⟩

theorem attempt_ending (x : Activity σ (List UInt8)) :
    (x.attempt >>= ending verb path) w s = settledOutcome w verb path (x w s) := by
  rw [Activity.attempt_bind]
  rcases x w s with ⟨es, t, r⟩
  cases r with
  | ok content => simp [Outcome.after, settledOutcome, ending, Activity.pure_apply]
  | error f => simp [Outcome.after, settledOutcome, ending, settle_apply]

/-- The row of the body that is sent comes before everything else. -/
theorem exchange_eq :
    c.exchange verb path body w s =
      (settledOutcome w verb path (c.attempts verb path body 1 c.connection.maxRetries w s)).after
        (openingEvents c w verb path body) := by
  rw [← attempt_ending]
  cases body with
  | none => rfl
  | some content =>
    cases hd : c.debug with
    | false => simp only [exchange, openingEvents, hd]; rfl
    | true =>
      simp only [exchange, openingEvents, hd, if_true]
      exact note_bind ..

/-- What an exchange gets to hear last: the reply to its last attempt, or that the clock refuses the
wait after it. -/
def lastReply (c : Client) (w : World σ) (q : Request) (s : σ) : Reply :=
  match c.refusedWait? w q s 1 c.connection.maxRetries with
  | some d => .raised d.failure
  | none => w.replyAt q s (lastAttempt (c.goesOn w q s 1) c.connection.maxRetries)

/-- What a clock refuses is neither tried again nor made into a fault. -/
theorem ended_refused (verb : Verb) (path : String) (d : Clock.Defect) :
    ended (outcome verb path (.error d.failure)) = .error d.failure := by
  cases d <;> rfl

theorem concluded_refused (verb : Verb) (path : String) (d : Clock.Defect) :
    concluded verb path (.error d.failure) = .error d.failure := by
  cases d <;> rfl

theorem attemptsResult_eq : c.attemptsResult verb path w q s 1 c.connection.maxRetries =
    ended (outcome verb path (taken q (c.lastReply w q s))) := by
  unfold attemptsResult lastReply
  cases c.refusedWait? w q s 1 c.connection.maxRetries with
  | some d => exact (ended_refused verb path d).symm
  | none => rfl

theorem exchange_apply (hq : c.request verb path body = .ok q) :
    let x := taken q (c.lastReply w q s)
    c.exchange verb path body w s =
      ⟨openingEvents c w verb path body ++ (c.attemptsEvents verb path w q s 1
        c.connection.maxRetries ++ closingEvents w verb path x),
        stateAfter w q s (lastAttempt (c.goesOn w q s 1) c.connection.maxRetries),
        concluded verb path x⟩ := by
  intro x
  rw [exchange_eq, attempts_apply hq, attemptsResult_eq]
  simp only [concluded, closingEvents, settledOutcome, Outcome.after, x]
  cases ended (outcome verb path (taken q (c.lastReply w q s))) with
  | ok content => simp
  | error f => simp

theorem exchange_result (hq : c.request verb path body = .ok q) :
    (c.exchange verb path body w s).result = concluded verb path (taken q (c.lastReply w q s)) := by
  rw [exchange_apply hq]

theorem goesOn_of_not_mayPass {n : Nat} (retry : Nat)
    (h : mayPass (taken q (w.replyAt q s n)) = false) : c.goesOn w q s retry n = false := by
  rw [goesOn, h, Bool.false_and]

/-- There is no wait after a reply that may not pass. -/
theorem lastReply_of_not_mayPass (h : mayPass (taken q (w.replyAt q s 0)) = false) :
    c.lastReply w q s = w.replyAt q s 0 := by
  have hlast := lastAttempt_of_not_goesOn (c.goesOn_of_not_mayPass 1 h) c.connection.maxRetries
  rw [lastReply, refusedWait?, hlast]
  simp [h]

/-- A reply that may not pass is the last one. -/
theorem exchange_of_reply {reply : Reply} {t : σ} (hq : c.request verb path body = .ok q)
    (hr : w.respond s q = (reply, t)) (hp : mayPass (taken q reply) = false) :
    ∃ es, c.exchange verb path body w s = ⟨es, t, concluded verb path (taken q reply)⟩ := by
  have hreply : w.replyAt q s 0 = reply := congrArg Prod.fst hr
  have hstate : (w.respond (w.stateAt q s 0) q).2 = t := congrArg Prod.snd hr
  rw [← hreply] at hp
  have hlast := lastAttempt_of_not_goesOn (c.goesOn_of_not_mayPass 1 hp) c.connection.maxRetries
  have hafter : stateAfter w q s 0 = t := by simp [stateAfter, hp, hstate]
  have happly := exchange_apply hq (w := w) (s := s)
  dsimp only at happly
  rw [hlast, hafter, lastReply_of_not_mayPass hp, hreply] at happly
  exact ⟨_, happly⟩

/-! A request that cannot be made. -/

/-- A failure of another kind than the faults of the client. -/
def IsForeign (f : Failure) : Prop := ∀ g cause, f ≠ .fault g cause

/-- A failure that is neither worth a retry nor made into a fault. -/
structure IsFinal (f : Failure) : Prop where
  foreign : IsForeign f
  notRetried : f.isRetryable = .ok false
  kept : ∀ {σ : Type} (verb : Verb) (path : String),
    (settle verb path f : Activity σ (List UInt8)) = .fail f

theorem checkHost_error {u : Url} {f : Failure} (h : checkHost u = .error f) : IsFinal f := by
  unfold checkHost Redirect.hostOf Redirect.checkName at h
  rcases error_of_bind h with h | ⟨_, -, h⟩
  · obtain ⟨d, -, rfl⟩ := error_of_mapError h
    exact ⟨nofun, rfl, fun _ _ => rfl⟩
  · dsimp only [Header.unencodable?] at h
    split at h
    · rename_i hf
      split at hf
      · cases hf
      · cases hf
        cases h
        exact ⟨nofun, rfl, fun _ _ => rfl⟩
    · cases h

theorem request_error {f : Failure} (h : c.request verb path body = .error f) : IsFinal f := by
  unfold request at h
  rcases error_of_bind h with h | ⟨url, -, h⟩
  · obtain ⟨d, -, rfl⟩ := error_of_mapError h
    exact ⟨nofun, rfl, fun _ _ => rfl⟩
  rcases error_of_bind h with h | ⟨_, -, h⟩
  · exact checkHost_error h
  split at h
  · cases h
  · cases h
    exact ⟨nofun, rfl, fun _ _ => rfl⟩

/-- A request is for its path at the base address of the client. -/
theorem request_ok {q : Request} (h : c.request verb path body = .ok q) :
    q.verb = verb ∧ q.body = body ∧ c.base.join path = .ok q.url := by
  unfold request at h
  obtain ⟨url, hu, h⟩ := ok_of_bind h
  obtain ⟨_, -, h⟩ := ok_of_bind h
  split at h
  · cases h
    exact ⟨rfl, rfl, ok_of_mapError hu⟩
  · cases h

theorem request_of_defect {d : Url.Defect} (h : Url.defect? path.toList = some d) :
    c.request verb path body = .error (Redirect.troubleOf d) := by
  simp [request, Url.join, Url.read, Url.readChars, h, bind, Except.bind]

theorem attemptOr_refused {f : Failure} (h : c.request verb path body = .error f)
    (next : Failure → Activity σ (List UInt8)) :
    c.attemptOr verb path body next w s = ⟨[], s, .error f⟩ := by
  have hs : c.sendOnce verb path body w s = ⟨[], s, .error f⟩ := by
    rw [sendOnce, h, Activity.ofExcept_error_bind]
    rfl
  rw [attemptOr, Activity.attempt_bind, hs]
  simp only [(request_error h).notRetried]
  rfl

theorem exchange_refused {f : Failure} (h : c.request verb path body = .error f) :
    c.exchange verb path body w s = ⟨openingEvents c w verb path body, s, .error f⟩ := by
  have ha : c.attempts verb path body 1 c.connection.maxRetries w s = ⟨[], s, .error f⟩ := by
    cases c.connection.maxRetries with
    | zero => exact attemptOr_refused h _
    | succ left => exact attemptOr_refused h _
  have hs : settle verb path f w s = ⟨[], s, .error f⟩ := by rw [(request_error h).kept]; rfl
  rw [settle_apply] at hs
  injection hs with he _ hf
  rw [exchange_eq, ha]
  simp [settledOutcome, Outcome.after, he, hf]

/-! The result of an exchange follows from its last attempt. -/

/-- What an exchange comes to, from what its last attempt took in. A response fault with a status
that is no number cannot be told from one that may pass. -/
inductive Decided (verb : Verb) (path : String) :
    Except Failure Response → Except Failure (List UInt8) → Prop
  | body {r : Response} (h : r.isSuccess = true) : Decided verb path (.ok r) (.ok r.body)
  | refusal {r : Response} {text : String} (h : r.isSuccess = false) (ht : r.text = .ok text) :
    Decided verb path (.ok r) (.error (.fault (.response r.status text verb.name path) none))
  | unreadable {r : Response} {u : Unreadable} (h : r.isSuccess = false) (hu : r.text = .error u) :
    Decided verb path (.ok r) (.error (.unreadable u))
  | broken {t : Trouble} {message : String} (h : t.isTransport = true) :
    Decided verb path (.error (.trouble t message))
      (.error (.fault (transportFault verb path message) (some (.trouble t message))))
  | unordered {f : Failure} {m : Misuse} (h : f.isRetryable = .error m) :
    Decided verb path (.error f) (.error (.misuse m))
  | other {f : Failure} {b : Bool} (h : f.isRetryable = .ok b)
    (ht : ∀ t message, f = .trouble t message → t.isTransport = false) :
    Decided verb path (.error f) (.error f)

section
variable {r : Response} {text : String} {u : Unreadable} {t : Trouble} {message : String}

theorem concluded_of_isSuccess (h : r.isSuccess = true) :
    concluded verb path (.ok r) = .ok r.body := by
  simp [concluded, outcome, h, ended]

theorem concluded_of_text (h : r.isSuccess = false) (ht : r.text = .ok text) :
    concluded verb path (.ok r) =
      .error (.fault (.response r.status text verb.name path) none) := by
  simp [concluded, outcome, h, responseFailure, ht, ended, Failure.isRetryable, Fault.response,
    Fault.make, isPassing_int, settled]

theorem concluded_of_unreadable (h : r.isSuccess = false) (hu : r.text = .error u) :
    concluded verb path (.ok r) = .error (.unreadable u) := by
  simp [concluded, outcome, h, responseFailure, hu, ended, Failure.isRetryable, settled]

theorem concluded_of_isTransport (h : t.isTransport = true) :
    concluded verb path (.error (.trouble t message)) =
      .error (.fault (transportFault verb path message) (some (.trouble t message))) := by
  simp [concluded, outcome, ended, Failure.isRetryable, settled, h]

end

theorem decided_concluded (x : Except Failure Response) :
    Decided verb path x (concluded verb path x) := by
  cases x with
  | ok r =>
    cases hs : r.isSuccess with
    | true =>
      rw [concluded_of_isSuccess hs]
      exact .body hs
    | false =>
      cases ht : r.text with
      | ok text =>
        rw [concluded_of_text hs ht]
        exact .refusal hs ht
      | error u =>
        rw [concluded_of_unreadable hs ht]
        exact .unreadable hs ht
  | error f =>
    cases hf : f.isRetryable with
    | error m =>
      have hc : concluded verb path (.error f) = .error (.misuse m) := by
        simp [concluded, outcome, ended, hf, settled]
      rw [hc]
      exact .unordered hf
    | ok b =>
      have hc : concluded verb path (.error f) = .error (settled verb path f) := by
        simp [concluded, outcome, ended, hf]
      cases f with
      | trouble t message =>
        cases ht : t.isTransport with
        | true =>
          rw [concluded_of_isTransport ht]
          exact .broken ht
        | false =>
          simp only [hc, settled, ht]
          refine .other hf ?_
          rintro t' message' he
          cases he
          exact ht
      | _ =>
        rw [hc]
        refine .other hf ?_
        rintro t message he
        cases he

/-! What an exchange leaves behind, by kind of event. -/

theorem requests_attemptsEvents (retry left : Nat) :
    (c.attemptsEvents verb path w q s retry left).filterMap Event.request? =
      List.replicate (lastAttempt (c.goesOn w q s retry) left + 1) q := by
  simp only [attemptsEvents, List.filterMap_append, List.filterMap_flatMap,
    requests_attemptEvents, requests_retryEvents, List.append_nil, ← List.map_eq_flatMap,
    apply_ite (List.filterMap Event.request?), List.filterMap_nil, ite_self]
  rw [List.replicate_succ', List.map_const', List.length_range]

/-- What comes once with each wait, which the one that the clock refuses is the last of. -/
theorem map_range_waitCount {α : Type} (f : Nat → α) (retry left : Nat) :
    (List.range (c.waitCount w q s retry left)).map f =
      (List.range (lastAttempt (c.goesOn w q s retry) left)).map f ++
        if (c.refusedWait? w q s retry left).isSome then
          [f (lastAttempt (c.goesOn w q s retry) left)]
        else [] := by
  unfold waitCount
  split
  · rw [List.range_succ, List.map_append, List.map_singleton]
  · rw [Nat.add_zero, List.append_nil]

theorem pauses_attemptsEvents (retry left : Nat) :
    (c.attemptsEvents verb path w q s retry left).filterMap Event.pause? =
      (List.range (c.waitCount w q s retry left)).map (c.pauseAt w q s retry) := by
  rw [map_range_waitCount]
  simp only [attemptsEvents, List.filterMap_append, List.filterMap_flatMap,
    pauses_attemptEvents, pauses_retryEvents, List.nil_append, ← List.map_eq_flatMap,
    apply_ite (List.filterMap Event.pause?), List.filterMap_nil]

theorem warnings_attemptsEvents (retry left : Nat) :
    (c.attemptsEvents verb path w q s retry left).filterMap (Event.row? Severity.warning.name) =
      if Row.enabled w.threshold Severity.warning.level then
        (List.range (c.waitCount w q s retry left)).map fun n =>
          Row.plain journal .warning (placed "_request"
            (c.retryMessage verb path (n + retry) (taken q (w.replyAt q s n))))
      else [] := by
  have hd : Severity.warning.name ≠ Severity.debug.name := by decide
  rw [map_range_waitCount]
  simp only [attemptsEvents, List.filterMap_append, List.filterMap_flatMap,
    rows_attemptEvents hd, rows_retryEvents, and_true, List.nil_append,
    apply_ite (List.filterMap (Event.row? Severity.warning.name)), List.filterMap_nil, pauseAt]
  cases Row.enabled w.threshold Severity.warning.level <;> simp [← List.map_eq_flatMap]

/-- An event that is a row of a severity. -/
def IsNote (severity : Severity) (e : Event) : Prop :=
  ∃ message, e = .logged (Row.plain journal severity message)

theorem isNote_of_mem_noted {severity : Severity} {place message : String} {e : Event}
    (h : e ∈ noted w severity place message) : IsNote severity e := by
  unfold noted World.noted at h
  split at h
  · exact ⟨_, List.mem_singleton.mp h⟩
  · cases h

theorem isNote_openingEvents (c : Client) (w : World σ) (verb : Verb) (path : String)
    (body : Option (List UInt8)) : ∀ e ∈ openingEvents c w verb path body, IsNote .debug e := by
  intro e he
  cases body with
  | none => cases he
  | some content =>
    simp only [openingEvents] at he
    split at he
    · exact isNote_of_mem_noted he
    · cases he

theorem isNote_settleEvents (w : World σ) (verb : Verb) (path : String) (f : Failure) :
    ∀ e ∈ settleEvents w verb path f, IsNote .error e := by
  intro e he
  unfold settleEvents at he
  split at he
  · split at he
    · exact isNote_of_mem_noted he
    · cases he
  · exact isNote_of_mem_noted he
  · cases he

theorem isNote_closingEvents (w : World σ) (verb : Verb) (path : String)
    (x : Except Failure Response) :
    ∀ e ∈ closingEvents w verb path x, IsNote .error e := by
  intro e he
  unfold closingEvents at he
  split at he
  · cases he
  · exact isNote_settleEvents w verb path _ e he

variable {severity : Severity} {es : List Event}

theorem requests_of_isNote (h : ∀ e ∈ es, IsNote severity e) :
    es.filterMap Event.request? = [] := by
  rw [List.filterMap_eq_nil_iff]
  intro e he
  obtain ⟨message, rfl⟩ := h e he
  rfl

theorem pauses_of_isNote (h : ∀ e ∈ es, IsNote severity e) : es.filterMap Event.pause? = [] := by
  rw [List.filterMap_eq_nil_iff]
  intro e he
  obtain ⟨message, rfl⟩ := h e he
  rfl

theorem rows_of_isNote (h : ∀ e ∈ es, IsNote severity e) {level : String}
    (hl : severity.name ≠ level) : es.filterMap (Event.row? level) = [] := by
  rw [List.filterMap_eq_nil_iff]
  intro e he
  obtain ⟨message, rfl⟩ := h e he
  exact if_neg hl

theorem requests_exchange_eq (hq : c.request verb path body = .ok q) :
    (c.exchange verb path body w s).events.filterMap Event.request? =
      List.replicate (lastAttempt (c.goesOn w q s 1) c.connection.maxRetries + 1) q := by
  rw [exchange_apply hq, List.filterMap_append, List.filterMap_append,
    requests_of_isNote (isNote_openingEvents c w verb path body),
    requests_of_isNote (isNote_closingEvents w verb path _), requests_attemptsEvents,
    List.append_nil, List.nil_append]

theorem pauses_exchange_eq (hq : c.request verb path body = .ok q) :
    (c.exchange verb path body w s).events.filterMap Event.pause? =
      (List.range (c.waitCount w q s 1 c.connection.maxRetries)).map (c.pauseAt w q s 1) := by
  rw [exchange_apply hq, List.filterMap_append, List.filterMap_append,
    pauses_of_isNote (isNote_openingEvents c w verb path body),
    pauses_of_isNote (isNote_closingEvents w verb path _), pauses_attemptsEvents,
    List.append_nil, List.nil_append]

/-- An exchange makes one request again and again. -/
theorem requests_exchange (hq : c.request verb path body = .ok q) :
    ∃ n, (c.exchange verb path body w s).events.filterMap Event.request? =
      List.replicate (n + 1) q :=
  ⟨_, requests_exchange_eq hq⟩

theorem requests_exchange_refused {f : Failure} (hq : c.request verb path body = .error f) :
    (c.exchange verb path body w s).events.filterMap Event.request? = [] := by
  rw [exchange_refused hq]
  exact requests_of_isNote (isNote_openingEvents c w verb path body)

/-- An exchange whose request can be made calls the transport until an attempt may not pass, the
clock refuses the wait after it, or the retries run out. There is a row and a wait for each attempt
but the last, which decides the result, unless the clock refuses the wait after it: then there are
a row and a wait for that one too, and what the clock fails with is the result. An exchange whose
request cannot be made never gets that far. An attempt takes in a plain response as it is. -/
theorem exchange_decided_by_last_attempt (c : Client) (verb : Verb) (path : String)
    (body : Option (List UInt8)) (w : World σ) (s : σ) :
    let o := c.exchange verb path body w s
    match c.request verb path body with
    | .error f =>
      o.events.filterMap Event.request? = [] ∧ o.events.filterMap Event.pause? = [] ∧
      o.events.filterMap (Event.row? "WARNING") = [] ∧ o.result = .error f
    | .ok q =>
      let x (n : Nat) := taken q (w.replyAt q s n)
      let pause (n : Nat) : Pause :=
        ⟨c.connection.shortestWait, c.connection.longestWait, w.jitterAt q s n, n + 1⟩
      let goesOn (n : Nat) :=
        mayPass (x n) && (w.clock (w.stateAt q s (n + 1)) (pause n).seconds).isNone
      let last := lastAttempt goesOn c.connection.maxRetries
      let refused :=
        if last < c.connection.maxRetries && mayPass (x last) then
          w.clock (w.stateAt q s (last + 1)) (pause last).seconds
        else none
      let waits := last + if refused.isSome then 1 else 0
      (∀ n r, (w.replyAt q s n).answer? = some r → r.IsPlain → q.url.hasType = true →
        x n = .ok r ∧ r.text = .ok (Utf8.decodeLossy r.body)) ∧
      o.events.filterMap Event.request? = List.replicate (last + 1) q ∧
      o.events.filterMap Event.pause? = (List.range waits).map pause ∧
      o.events.filterMap (Event.row? "WARNING") =
        (if Row.enabled w.threshold Severity.warning.level then
          (List.range waits).map fun n => Row.plain journal .warning (placed "_request"
            (c.retryMessage verb path (n + 1) (x n)))
        else []) ∧
      match refused with
      | none => Decided verb path (x last) o.result
      | some d => o.result = .error d.failure := by
  intro o
  have hdw : Severity.debug.name ≠ "WARNING" := by decide
  have hew : Severity.error.name ≠ "WARNING" := by decide
  have hopen := isNote_openingEvents c w verb path body
  cases hq : c.request verb path body with
  | error f =>
    have ho : o = _ := exchange_refused hq
    rw [ho]
    exact ⟨requests_of_isNote hopen, pauses_of_isNote hopen, rows_of_isNote hopen hdw, rfl⟩
  | ok q =>
    dsimp -zeta only
    intro x pause goesOn last refused waits
    refine ⟨fun n r hr hp hu => ?_, requests_exchange_eq hq, pauses_exchange_eq hq, ?_, ?_⟩
    · exact ⟨taken_of_isPlain hr hu hp, Response.text_of_isBare hp.toIsBare⟩
    · rw [show o = _ from exchange_apply hq, List.filterMap_append, List.filterMap_append,
        rows_of_isNote hopen hdw, rows_of_isNote (isNote_closingEvents w verb path _) hew,
        List.append_nil, List.nil_append]
      exact warnings_attemptsEvents 1 c.connection.maxRetries
    · have hr : refused = c.refusedWait? w q s 1 c.connection.maxRetries := rfl
      rw [show o.result = _ from exchange_result hq, lastReply, ← hr]
      cases refused with
      | none => exact decided_concluded _
      | some d => exact concluded_refused verb path d

/-- A clock that refuses the first wait there is to be puts an end to an exchange. -/
theorem exchange_of_refusal {d : Clock.Defect} (hq : c.request verb path body = .ok q)
    (hr : 0 < c.connection.maxRetries) (hp : mayPass (taken q (w.replyAt q s 0)) = true)
    (hd : c.refusalAt w q s 1 0 = some d) :
    let o := c.exchange verb path body w s
    o.events.filterMap Event.request? = [q] ∧ o.result = .error d.failure := by
  intro o
  have hgo : c.goesOn w q s 1 0 = false := by
    rw [goesOn, hd]
    exact Bool.and_false _
  have hlast := lastAttempt_of_not_goesOn hgo c.connection.maxRetries
  have hrefused : c.refusedWait? w q s 1 c.connection.maxRetries = some d := by
    simp only [refusedWait?, hlast, hr, hp, hd]
    rfl
  constructor
  · rw [requests_exchange_eq hq, hlast]
    rfl
  · rw [exchange_result hq, lastReply, hrefused]
    exact concluded_refused verb path d

/-- A wait of ten thousand million seconds, which is more than a computer counts nanoseconds for. -/
theorem system_seconds_tooLong :
    Clock.system 0 (Pause.seconds ⟨10000000000, 10000000000, 0, 1⟩) = some .tooLong := by
  have hboth : (10000000000 + 0 * 10000000000 : Float) = 10000000000 ∧
      Backoff.wait (10000000000 : Float) 10000000000 0 1 = 10000000000 := by decide +kernel
  rw [Pause.seconds, hboth.1, hboth.2, ite_self]
  decide +kernel

/-- A path may keep the request from being made, a response that the HTTP layer makes nothing of is
tried again whatever its status, and a wait that the clock refuses ends an exchange that a response
of success was next to. -/
theorem exchange_not_decided_by_status :
    let unsent := sample.exchange .get "/a\x01" none (Script.world 0 0) [.response ⟨200, [], []⟩]
    let retried := sample.exchange .get "/l" none (Script.world 0 0)
      [.response ⟨302, [("Location", "http://[zz]/")], []⟩, .response ⟨200, [], [0x2E]⟩]
    let stopped := (paced 1 10000000000 10000000000).exchange .get "/l" none
      (Script.world 0 0 (Clock.system 0)) [.response ⟨500, [], []⟩, .response ⟨200, [], [0x2E]⟩]
    unsent.events.filterMap Event.request? = [] ∧
    (retried.events.filterMap Event.request?).length = 2 ∧
    retried.result.toOption = some [0x2E] ∧
    (stopped.events.filterMap Event.request?).length = 1 ∧
    stopped.result = .error Clock.Defect.tooLong.failure := by
  intro unsent retried stopped
  have hq : sample.request .get "/l" none = .ok (sample.requestAt "/l") := rfl
  refine ⟨?_, ?_, rfl, ?_⟩
  · have hd : Url.defect? "/a\x01".toList = some (.unprintable '\x01' 2) := by decide
    rw [show unsent = _ from exchange_refused (request_of_defect hd)]
    rfl
  · rw [requests_exchange_eq hq]
    rfl
  · have hq' : (paced 1 10000000000 10000000000).request .get "/l" none =
        .ok (sample.requestAt "/l") := hq
    obtain ⟨hrequests, hresult⟩ := exchange_of_refusal (w := Script.world 0 0 (Clock.system 0))
      (s := [.response ⟨500, [], []⟩, .response ⟨200, [], [0x2E]⟩]) hq' Nat.one_pos rfl
      system_seconds_tooLong
    exact ⟨congrArg List.length hrequests, hresult⟩

end Outlier.Client

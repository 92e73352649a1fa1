import Outlier.Proofs.Exchange.Failures
import Outlier.Proofs.Journal.Excerpt

/-! How long the rows of an exchange are. Bodies get into them as excerpts only. -/
namespace Outlier

/-- No row, or one with a message of at most so many characters. -/
def Event.IsShort (limit : Nat) (e : Event) : Prop :=
  ∀ row, e = .logged row → row.message.length ≤ limit

theorem Event.isShort_sent (limit : Nat) (q : Request) : (Event.sent q).IsShort limit := nofun

theorem Event.isShort_slept (limit : Nat) (p : Pause) : (Event.slept p).IsShort limit := nofun

theorem Event.IsShort.mono {m n : Nat} {e : Event} (h : e.IsShort m) (hle : m ≤ n) :
    e.IsShort n := fun row hrow => Nat.le_trans (h row hrow) hle

theorem World.isShort_noted {σ : Type} {w : World σ} {logger message : String}
    {severity : Severity} {limit : Nat} (h : message.length ≤ limit) :
    ∀ e ∈ w.noted logger severity message, e.IsShort limit := by
  intro e he row hrow
  unfold World.noted at he
  split at he
  · cases List.mem_singleton.mp he
    cases hrow
    exact h
  · cases he

namespace Client
variable {σ : Type} {c : Client} {verb : Verb} {path : String} {body : Option (List UInt8)}
  {w : World σ} {q : Request} {s : σ} {x : Except Failure Response} {limit size top : Nat}
  {text place message : String}

/-! The parts of messages. -/

theorem length_line (verb : Verb) (path : String) : (line verb path).length ≤ 7 + path.length := by
  have hverb : verb.name.length ≤ 6 := by cases verb <;> decide
  have hspace : " ".length = 1 := rfl
  rw [line, String.length_append, String.length_append]
  omega

theorem length_natText (n : Nat) : (toString n).length = Decimal.digitCount n :=
  String.length_ofList

theorem length_ofInt (n : Int) :
    (String.ofList (Numeral.ofInt n)).length ≤ 1 + Decimal.digitCount n.natAbs := by
  rw [String.length_ofList, Numeral.ofInt, Decimal.digitCount]
  split
  · exact Nat.le_of_eq (Nat.add_comm _ 1)
  · exact Nat.le_add_left _ 1

theorem length_name_of_isTransport {t : Trouble} (h : t.isTransport = true) :
    t.name.length ≤ 23 := by
  cases t <;> first | decide | cases h

/-- An attempt that takes in a response brings its body, the fault of it, or its text is unreadable. -/
theorem outcome_cases (verb : Verb) (path : String) (r : Response) :
    outcome verb path (.ok r) = .ok r.body ∨
      (∃ text, outcome verb path (.ok r) =
        .error (.fault (.response r.status text verb.name path) none)) ∨
      ∃ u, outcome verb path (.ok r) = .error (.unreadable u) := by
  unfold outcome responseFailure
  dsimp only
  split
  · exact .inl rfl
  split
  · exact .inr (.inl ⟨_, rfl⟩)
  · exact .inr (.inr ⟨_, rfl⟩)

theorem length_reason {f : Failure} (h : ∀ t m, f = .trouble t m → t.isTransport = true) :
    (reason f).length ≤ 23 := by
  unfold reason
  split
  · exact length_name_of_isTransport (h _ _ rfl)
  · rename_i f cause
    cases f.kind <;> decide
  · decide

/-- A failure that may pass has a short name. -/
theorem length_causeName (verb : Verb) (path : String) (h : mayPass x = true) :
    (causeName verb path x).length ≤ 23 := by
  unfold causeName
  cases x with
  | error f =>
    refine length_reason ?_
    rintro t m rfl
    exact h
  | ok r =>
    rcases outcome_cases verb path r with ho | ⟨text, ho⟩ | ⟨u, ho⟩ <;> rw [ho]
    · exact Nat.zero_le 23
    · exact length_reason nofun
    · exact length_reason nofun

/-- A row of the client, by its message. -/
theorem isShort_noted {severity : Severity} (hp : place.length ≤ 8)
    (h : 52 + message.length ≤ limit) : ∀ e ∈ noted w severity place message, e.IsShort limit := by
  refine World.isShort_noted ?_
  have hjournal : journal.length = 40 := by decide
  have hcolon : ":".length = 1 := rfl
  have hdash : " - ".length = 3 := rfl
  simp only [placed, String.length_append]
  omega

/-- What the HTTP layer says of why there is no response. -/
def troubleText : Except Failure Response → String
  | .error (.trouble _ message) => message
  | _ => ""

/-- The bound for rows about a path, a failure with a text, bodies up to a size and statuses up to a
top. -/
def rowLimit (c : Client) (path text : String) (size top : Nat) : Nat :=
  700 + path.length + text.length + Decimal.digitCount size + Decimal.digitCount top +
    2 * Decimal.digitCount c.connection.maxRetries

/-- A response has a body up to a size and a status up to a top. -/
def Fits (size top : Nat) (x : Except Failure Response) : Prop :=
  ∀ r, x = .ok r → r.body.length ≤ size ∧ r.status.natAbs ≤ top

/-! Rows by where they come from. -/

theorem isShort_openingEvents (hb : ∀ content, body = some content → content.length ≤ size) :
    ∀ e ∈ openingEvents c w verb path body, e.IsShort (c.rowLimit path text size top) := by
  cases body with
  | none => exact List.forall_mem_nil _
  | some content =>
    have hline := length_line verb path
    have hwhat : " body: ".length = 7 := rfl
    have hbody := Excerpt.length_ofBody (hb content rfl)
    simp only [openingEvents]
    split
    · refine isShort_noted (by decide) ?_
      rw [String.length_append, String.length_append, rowLimit]
      omega
    · exact List.forall_mem_nil _

theorem isShort_attemptEvents (hx : Fits size top x) :
    ∀ e ∈ c.attemptEvents verb path w q x, e.IsShort (c.rowLimit path text size top) := by
  refine List.forall_mem_cons.mpr ⟨Event.isShort_sent _ q, ?_⟩
  cases x with
  | error f => exact List.forall_mem_nil _
  | ok r =>
    obtain ⟨hbody, hstatus⟩ := hx r rfl
    have hline := length_line verb path
    have harrow : " -> ".length = 4 := rfl
    have hnumber := length_ofInt r.status
    have hdigits := Decimal.digitCount_le hstatus
    have hcolon : ": ".length = 2 := rfl
    have hexcerpt := Excerpt.length_ofBody hbody
    dsimp only
    split
    · refine isShort_noted (by decide) ?_
      simp only [String.length_append, rowLimit]
      omega
    · exact List.forall_mem_nil _

theorem isShort_retryEvents {p : Pause} (hr : p.retry ≤ c.connection.maxRetries)
    (hx : mayPass x = true) :
    ∀ e ∈ c.retryEvents verb path w p x, e.IsShort (c.rowLimit path text size top) := by
  have hline := length_line verb path
  have hretry : " retry ".length = 7 := rfl
  have hslash : "/".length = 1 := rfl
  have hafter : " after ".length = 7 := rfl
  have hdigits := Decimal.digitCount_le hr
  have hcause := length_causeName verb path hx
  refine List.forall_mem_append.mpr ⟨isShort_noted (by decide) ?_, ?_⟩
  · simp only [retryMessage, String.length_append, length_natText, rowLimit]
    omega
  · exact List.forall_mem_singleton.mpr (Event.isShort_slept _ _)

/-- Retries are for attempts that may pass, the one that the clock puts an end to among them. -/
theorem isShort_attemptsEvents
    (hx : ∀ n ≤ c.connection.maxRetries, Fits size top (taken q (w.replyAt q s n))) :
    ∀ e ∈ c.attemptsEvents verb path w q s 1 c.connection.maxRetries,
      e.IsShort (c.rowLimit path text size top) := by
  have hlast := lastAttempt_le (c.goesOn w q s 1) c.connection.maxRetries
  have hretried {n : Nat} (hn : n < c.connection.maxRetries)
      (hp : mayPass (taken q (w.replyAt q s n)) = true) :
      ∀ e ∈ c.retryEvents verb path w (c.pauseAt w q s 1 n) (taken q (w.replyAt q s n)),
        e.IsShort (c.rowLimit path text size top) := isShort_retryEvents hn hp
  refine List.forall_mem_append.mpr ⟨fun e he => ?_, List.forall_mem_append.mpr
    ⟨isShort_attemptEvents (hx _ hlast), ?_⟩⟩
  · obtain ⟨n, hn, he⟩ := List.mem_flatMap.mp he
    have hlt := List.mem_range.mp hn
    have hgo := goesOn_of_lt_lastAttempt _ hlt
    rcases List.mem_append.mp he with he | he
    · exact isShort_attemptEvents (hx n (by omega)) e he
    · exact hretried (by omega) (mayPass_of_goesOn hgo) e he
  · split
    next h =>
      obtain ⟨hlt, hp⟩ := of_refusedWait? h
      exact hretried hlt hp
    · exact List.forall_mem_nil _

/-- A failure that an exchange settles is one of the HTTP layer, which has a text, or the fault of a
response. -/
theorem isShort_closingEvents (hx : Fits size top x) (hf : FailsForeign x) :
    ∀ e ∈ closingEvents w verb path x, e.IsShort (c.rowLimit path (troubleText x) size top) := by
  have hline := length_line verb path
  unfold closingEvents ended
  cases x with
  | ok r =>
    have hnumber := length_ofInt r.status
    have hdigits := Decimal.digitCount_le (hx r rfl).2
    have harrow : " -> ".length = 4 := rfl
    rcases outcome_cases verb path r with ho | ⟨text, ho⟩ | ⟨u, ho⟩ <;> rw [ho]
    · exact List.forall_mem_nil _
    · refine isShort_noted (by decide) ?_
      simp only [Value.plain, Value.quoted, String.length_append, rowLimit]
      omega
    · exact List.forall_mem_nil _
  | error f =>
    cases f with
    | fault f cause => exact absurd rfl (hf _ rfl f cause)
    | trouble t message =>
      have hfailed : " failed: ".length = 9 := rfl
      simp only [outcome, Failure.isRetryable, settleEvents]
      split
      · refine isShort_noted (by decide) ?_
        simp only [String.length_append, rowLimit, troubleText]
        omega
      · exact List.forall_mem_nil _
    | _ => exact List.forall_mem_nil _

theorem fits_lastReply
    (hx : ∀ n ≤ c.connection.maxRetries, Fits size top (taken q (w.replyAt q s n))) :
    Fits size top (taken q (c.lastReply w q s)) := by
  unfold lastReply
  split
  · exact nofun
  · exact hx _ (lastAttempt_le _ _)

/-- The rows of an exchange are bounded whatever the bodies. -/
theorem isShort_exchange (hq : c.request verb path body = .ok q)
    (hb : ∀ content, body = some content → content.length ≤ size)
    (hx : ∀ n ≤ c.connection.maxRetries, Fits size top (taken q (w.replyAt q s n)))
    (hf : (c.lastReply w q s).IsServed) :
    ∀ e ∈ (c.exchange verb path body w s).events,
      e.IsShort (c.rowLimit path (troubleText (taken q (c.lastReply w q s))) size top) := by
  rw [exchange_apply hq]
  refine List.forall_mem_append.mpr ⟨isShort_openingEvents hb, List.forall_mem_append.mpr ⟨?_, ?_⟩⟩
  · exact isShort_attemptsEvents hx
  · exact isShort_closingEvents (fits_lastReply hx) (failsForeign_taken hf q)

end Client
end Outlier

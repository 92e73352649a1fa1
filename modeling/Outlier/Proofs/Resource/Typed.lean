import Outlier.Proofs.Resource.Failures
import Outlier.Proofs.Resource.Wrapping

/-! Where failures get their types: an exchange makes faults of the client of those that it knows,
an operation makes faults of the resource of these, and all others go through both. -/
namespace Outlier

/-- A fault of a kind, or of a case of it. -/
def Failure.IsA (kind : FaultKind) : Failure → Prop
  | .fault f _ => f.kind.lineage.contains kind = true
  | _ => False

/-- A result of some kind, or else a fault of one. -/
def EndsTyped {α : Type} (kind : FaultKind) (x : Except Failure α) : Prop :=
  ∀ e, x = .error e → e.IsA kind

theorem endsTyped_ok {α : Type} (kind : FaultKind) (a : α) :
    EndsTyped kind (.ok a : Except Failure α) := nofun

theorem endsTyped_error {α : Type} {kind : FaultKind} {e : Failure} :
    EndsTyped kind (.error e : Except Failure α) ↔ e.IsA kind := by
  constructor
  · exact fun h => h e rfl
  · rintro h _ ⟨⟩
    exact h

namespace Client
variable {σ : Type} {c : Client} {verb : Verb} {path : String} {body : Option (List UInt8)}
  {w : World σ} {q : Request} {s : σ}

theorem not_isA_of_isForeign {kind : FaultKind} {e : Failure} (h : IsForeign e) : ¬ e.IsA kind := by
  cases e with
  | fault f cause => exact absurd rfl (h f cause)
  | _ => exact id

/-- What the client makes bytes or a fault of its own of: a response of success or with a text, a
failed exchange, and a fault of its own whose status can be compared. -/
def IsHandled : Except Failure Response → Prop
  | .ok r => r.isSuccess = true ∨ r.text.isOk = true
  | .error (.trouble t _) => t.isTransport = true
  | .error (.fault f cause) =>
    f.kind.lineage.contains .api = true ∧ (Failure.fault f cause).isRetryable.isOk = true
  | .error _ => False

theorem endsTyped_of_decided {x : Except Failure Response} {y : Except Failure (List UInt8)}
    (h : Decided verb path x y) : EndsTyped .api y ↔ IsHandled x := by
  cases h with
  | body hs => exact iff_of_true (endsTyped_ok _ _) (.inl hs)
  | refusal hs ht =>
    have hok : IsHandled (.ok _) := .inr (by rw [ht]; rfl)
    exact iff_of_true (endsTyped_error.mpr rfl) hok
  | unreadable hs hu =>
    refine iff_of_false (fun h => endsTyped_error.mp h) ?_
    rintro (h | h)
    · rw [hs] at h
      cases h
    · rw [hu] at h
      cases h
  | broken ht => exact iff_of_true (endsTyped_error.mpr rfl) ht
  | @unordered f m hf =>
    refine iff_of_false (fun h => endsTyped_error.mp h) fun h => ?_
    cases f with
    | fault f cause =>
      have hok := h.2
      rw [hf] at hok
      cases hok
    | trouble t m => cases hf
    | _ => exact h
  | @other f b hf ht =>
    rw [endsTyped_error]
    cases f with
    | fault f cause =>
      have hok : (Failure.fault f cause).isRetryable.isOk = true := by
        rw [hf]
        rfl
      exact ⟨fun h => ⟨h, hok⟩, fun h => h.1⟩
    | trouble t m =>
      refine iff_of_false id fun h => ?_
      rw [IsHandled, ht t m rfl] at h
      cases h
    | _ => exact Iff.rfl

/-- An exchange has a request that the last attempt of is handled. -/
def Handles (c : Client) (verb : Verb) (path : String) (body : Option (List UInt8)) (w : World σ)
    (s : σ) : Prop :=
  ∃ q, c.request verb path body = .ok q ∧ IsHandled (taken q (c.lastReply w q s))

theorem endsTyped_exchange :
    EndsTyped .api (c.exchange verb path body w s).result ↔ c.Handles verb path body w s := by
  cases hq : c.request verb path body with
  | error f =>
    rw [exchange_refused hq, endsTyped_error]
    refine iff_of_false (not_isA_of_isForeign (request_error hq).foreign) ?_
    rintro ⟨q, h, -⟩
    rw [hq] at h
    cases h
  | ok q =>
    rw [exchange_result hq, endsTyped_of_decided (decided_concluded _)]
    constructor
    · exact fun h => ⟨q, hq, h⟩
    · rintro ⟨q', h, hx⟩
      rw [hq] at h
      cases h
      exact hx

/-- With a server behind it an exchange ends in bytes, a fault of the client or a failure that is
none. -/
theorem exchange_ends (hw : ∀ q, (c.lastReply w q s).IsServed) :
    (∃ content, (c.exchange verb path body w s).result = .ok content) ∨
    (∃ f cause, (c.exchange verb path body w s).result = .error (.fault f cause) ∧
      f.IsOfExchange ∧ f.kind.lineage.contains .api = true) ∨
    ∃ e, (c.exchange verb path body w s).result = .error e ∧ IsForeign e := by
  cases hq : c.request verb path body with
  | error f =>
    rw [exchange_refused hq]
    exact .inr (.inr ⟨f, rfl, (request_error hq).foreign⟩)
  | ok q =>
    rw [exchange_result hq]
    have hforeign := failsForeign_taken (hw q) q
    have hdecided : Decided verb path (taken q (c.lastReply w q s))
        (concluded verb path (taken q (c.lastReply w q s))) := decided_concluded _
    generalize taken q (c.lastReply w q s) = x at hforeign hdecided ⊢
    generalize concluded verb path x = y at hdecided ⊢
    cases hdecided with
    | body => exact .inl ⟨_, rfl⟩
    | refusal => exact .inr (.inl ⟨_, _, rfl, Fault.isOfExchange_response _ _ _ _, rfl⟩)
    | unreadable => exact .inr (.inr ⟨_, rfl, nofun⟩)
    | broken => exact .inr (.inl ⟨_, _, rfl, Fault.isOfExchange_transport _ _ _, rfl⟩)
    | unordered => exact .inr (.inr ⟨_, rfl, nofun⟩)
    | other => exact .inr (.inr ⟨_, rfl, hforeign _ rfl⟩)

end Client

namespace Plan
variable {σ : Type} {r : Resource} {p : Plan} {c : Client} {w : World σ} {s : σ}

/-- With a server behind it an operation is as well typed as its exchange. -/
theorem endsTyped_run (hw : ∀ q, (c.lastReply w q s).IsServed) :
    EndsTyped .resource (p.run r c w s).result ↔
      EndsTyped .api (c.exchange p.verb p.path p.content w s).result := by
  rcases Client.exchange_ends hw with ⟨body, hx⟩ | ⟨f, cause, hx, hf, hk⟩ | ⟨e, hx, he⟩
  · rw [hx, (run_of_concluded_ok (r := r) hx).1]
    refine iff_of_true ?_ (endsTyped_ok _ _)
    unfold answer
    cases p.expected.read r.model body with
    | ok a => exact endsTyped_ok _ _
    | error rejection => exact endsTyped_error.mpr rfl
  · rw [hx, run_of_isFree hk (Resource.isFree_of_isOfExchange hf _) hx]
    exact iff_of_true (endsTyped_error.mpr rfl) (endsTyped_error.mpr hk)
  · rw [hx, run_of_other he hx, endsTyped_error, endsTyped_error]
    exact iff_of_false (Client.not_isA_of_isForeign he) (Client.not_isA_of_isForeign he)

end Plan

namespace Client
variable {σ : Type}

/-- An exchange ends in bytes or a fault of the client if its request can be made and what the last
attempt takes in is handled, and else in neither. Exactly then does an operation around it end in
an answer or a fault of the resource, if a server is behind it. -/
theorem typed_iff_handled (c : Client) (w : World σ) (s : σ) :
    (∀ verb path body, EndsTyped .api (c.exchange verb path body w s).result ↔
      c.Handles verb path body w s) ∧
    ∀ (r : Resource) (op : Operation) (p : Plan), op.plan r = .ok p →
      (∀ q, (c.lastReply w q s).IsServed) →
      (EndsTyped .resource (op.call.perform r c w s).result ↔
        c.Handles p.verb p.path p.content w s) := by
  refine ⟨fun verb path body => endsTyped_exchange, fun r op p hp hw => ?_⟩
  rw [Operation.perform_of_plan hp, Plan.endsTyped_run hw, endsTyped_exchange]

/-- A response that cannot be unpacked leaves an exchange and the operation around it in a failure
of the HTTP layer. -/
theorem exchange_not_typed :
    let packed : Reply := .response ⟨200, [("Content-Encoding", "gzip")], [0x78, 0x78]⟩
    let w := Script.world 0 0
    let got := (sample.exchange .get "/l" none w [packed]).result
    let fetched := ((Operation.fetch (.text "1")).call.perform .outlierReport sample w
      [packed]).result
    (∃ m, got = .error (.trouble .decoding m)) ∧ ¬ EndsTyped .api got ∧
      (∃ m, fetched = .error (.trouble .decoding m)) ∧ ¬ EndsTyped .resource fetched := by
  intro packed w got fetched
  have hgot : ∃ m, got = .error (.trouble .decoding m) := ⟨_, rfl⟩
  have hfetched : ∃ m, fetched = .error (.trouble .decoding m) := ⟨_, rfl⟩
  refine ⟨hgot, fun h => ?_, hfetched, fun h => ?_⟩
  · obtain ⟨m, hm⟩ := hgot
    exact h _ hm
  · obtain ⟨m, hm⟩ := hfetched
    exact h _ hm

end Client
end Outlier

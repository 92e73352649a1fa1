import Outlier.Proofs.Exchange.Decision

/-! Requests of clients that may be closed. What is wrong with an address comes out first; then a
closed client refuses, before anything is sent. -/
namespace Outlier.Client

variable {σ : Type} {c : Client} {verb : Verb} {path : String} {body : Option (List UInt8)}
  {w : World σ} {s : σ}

/-- The address of a path, whether the client is open or not. -/
def located (c : Client) (path : String) : Except Failure Url := do
  let url ← (c.base.join path).mapError Redirect.troubleOf
  checkHost url
  return url

/-- What a closed client refuses a path with. -/
def refusal (c : Client) (path : String) : Failure :=
  match c.located path with
  | .error f => f
  | .ok _ => .closed

theorem refusal_close (c : Client) (path : String) : c.close.refusal path = c.refusal path := rfl

theorem close_of_closed (h : c.isOpen = false) : c.close = c := by
  obtain ⟨connection, base, debug, isOpen⟩ := c
  cases h
  rfl

theorem request_of_located_error {f : Failure} (h : c.located path = .error f) :
    c.request verb path body = .error f := by
  unfold located at h
  unfold request
  rcases error_of_bind h with h | ⟨url, hu, h⟩
  · rw [h]
    rfl
  rcases error_of_bind h with h | ⟨_, -, h⟩
  · rw [hu]
    simp only [bind, Except.bind, h]
  · cases h

theorem request_of_located {url : Url} (h : c.located path = .ok url) :
    c.request verb path body =
      if c.isOpen then .ok ⟨verb, url, c.headers body.isSome, body⟩ else .error .closed := by
  unfold located at h
  unfold request
  obtain ⟨u, hu, h⟩ := ok_of_bind h
  obtain ⟨_, hc, h⟩ := ok_of_bind h
  cases h
  rw [hu]
  simp only [bind, Except.bind, hc]
  rfl

theorem request_of_closed (h : c.isOpen = false) :
    c.request verb path body = .error (c.refusal path) := by
  unfold refusal
  cases hl : c.located path with
  | error f => exact request_of_located_error hl
  | ok url => rw [request_of_located hl, h, if_neg Bool.false_ne_true]

theorem isForeign_refusal (c : Client) (path : String) : IsForeign (c.refusal path) := by
  have hq : c.close.request .get path none = .error (c.close.refusal path) := request_of_closed rfl
  rw [← refusal_close]
  exact (request_error hq).foreign

/-- An exchange through a closed client ends where it begins. -/
theorem exchange_of_closed (h : c.isOpen = false) :
    c.exchange verb path body w s =
      ⟨openingEvents c w verb path body, s, .error (c.refusal path)⟩ :=
  exchange_refused (request_of_closed h)

end Outlier.Client

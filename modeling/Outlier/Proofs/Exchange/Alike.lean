import Outlier.Proofs.Alike
import Outlier.Resource

/-! Clients that look alike: exchanges through them are told apart by their requests and by the rows
that show bodies, if at all. -/
namespace Outlier

/-- The places of the program that note the bodies of requests and responses. -/
def Row.bodyPlaces : List (String × String) :=
  [(Client.journal, "_send"), (Client.journal, "_request"), (Resource.journal, "fetch"),
    (Resource.journal, "create"), (Resource.journal, "update")]

/-- A row in which one of these places notes a body. -/
def Row.showsBody (r : Row) : Bool :=
  r.level == Severity.debug.name && bodyPlaces.any fun p =>
    r.logger == p.1 && (p.1 ++ ":" ++ p.2 ++ " - ").toList.isPrefixOf r.message.toList

def Event.showsBody : Event → Bool
  | .logged r => r.showsBody
  | _ => false

theorem Row.showsBody_plain {logger place : String} (h : (logger, place) ∈ bodyPlaces)
    (message : String) :
    (plain logger .debug (logger ++ ":" ++ place ++ " - " ++ message)).showsBody = true := by
  rw [showsBody, Bool.and_eq_true, List.any_eq_true]
  refine ⟨beq_self_eq_true _, (logger, place), h, ?_⟩
  simp [plain, List.isPrefixOf_iff_prefix]

theorem Row.showsBody_of_level {r : Row} (h : r.level ≠ Severity.debug.name) :
    r.showsBody = false := by
  rw [showsBody, beq_eq_false_iff_ne.mpr h, Bool.false_and]

/-- Two sights that are the same but for rows that show bodies. -/
def Agree (v u : Sight) : Prop := ∀ e : Event, e.showsBody = false → v e = u e

variable {σ : Type} {w : World σ} {v u : Sight}

theorem Activity.alike_note_of_agree (h : Agree v u) {logger : String} {severity : Severity}
    (hs : severity.name ≠ Severity.debug.name) (message : String) :
    (note logger severity message : Activity σ Unit).Alike w v u
      (note logger severity message) :=
  alike_note (h _ (Row.showsBody_of_level hs))

namespace Client

/-- The first client in one sight looks as the second one does in another. They make their requests
to the same addresses and as often, and either both show bodies or such rows are not seen of the
first one and the second one shows none. -/
structure Alike (w : World σ) (v u : Sight) (c d : Client) : Prop where
  base : c.base = d.base
  isOpen : c.isOpen = d.isOpen
  url : c.connection.url = d.connection.url
  retries : c.connection.maxRetries = d.connection.maxRetries
  shortest : c.connection.shortestWait = d.connection.shortestWait
  longest : c.connection.longestWait = d.connection.longestWait
  agree : Agree v u
  sends : ∀ verb url body,
    (Activity.send ⟨verb, url, c.headers body.isSome, body⟩).Alike w v u
      (Activity.send ⟨verb, url, d.headers body.isSome, body⟩)
  traces : (v = u ∧ c.debug = d.debug) ∨
    ((∀ e : Event, e.showsBody = true → v e = none) ∧ d.debug = false)

variable {c d : Client} {verb : Verb} {path : String} {body : Option (List UInt8)}
  {α : Type}

theorem Alike.closed (h : c.Alike w v u d) : c.close.Alike w v u d.close :=
  ⟨h.base, rfl, h.url, h.retries, h.shortest, h.longest, h.agree, h.sends, h.traces⟩

/-- A row that shows a body goes before the same of both, where there is one. -/
theorem Alike.traced (h : c.Alike w v u d) {logger place : String}
    (hp : (logger, place) ∈ Row.bodyPlaces) (message : String) {k l : Activity σ α}
    (hk : k.Alike w v u l) :
    (if c.debug then
      Activity.note logger .debug (logger ++ ":" ++ place ++ " - " ++ message) >>= fun _ => k
      else k).Alike w v u
    (if d.debug then
      Activity.note logger .debug (logger ++ ":" ++ place ++ " - " ++ message) >>= fun _ => l
      else l) := by
  rcases h.traces with ⟨rfl, hd⟩ | ⟨hidden, hd⟩
  · rw [hd]
    split
    · exact Activity.alike_bind (Activity.alike_note rfl) fun _ => hk
    · exact hk
  · rw [hd, if_neg Bool.false_ne_true]
    split
    · exact Activity.alike_of_hidden (hidden _ (Row.showsBody_plain hp message)) hk
    · exact hk

/-- The address of a request, or what keeps it from being made. -/
def address (c : Client) (path : String) : Except Failure Url := do
  let url ← (c.base.join path).mapError Redirect.troubleOf
  checkHost url
  if c.isOpen then return url else .error .closed

theorem request_eq (c : Client) (verb : Verb) (path : String) (body : Option (List UInt8)) :
    c.request verb path body =
      (c.address path).map fun url => ⟨verb, url, c.headers body.isSome, body⟩ := by
  rw [request, address]
  cases (c.base.join path).mapError Redirect.troubleOf with
  | error f => rfl
  | ok url =>
    simp only [bind, Except.bind]
    cases checkHost url <;> cases c.isOpen <;> rfl

theorem Alike.address (h : c.Alike w v u d) (path : String) : c.address path = d.address path := by
  rw [Client.address, Client.address, h.base, h.isOpen]

theorem Alike.sendOnce (h : c.Alike w v u d) (verb : Verb) (path : String)
    (body : Option (List UInt8)) :
    (c.sendOnce verb path body : Activity σ _).Alike w v u (d.sendOnce verb path body) := by
  rw [Client.sendOnce, Client.sendOnce, request_eq, request_eq, h.address]
  cases d.address path with
  | error f => exact Activity.alike_fail f
  | ok url =>
    rw [Except.map, Except.map, Activity.ofExcept_ok_bind, Activity.ofExcept_ok_bind]
    refine Activity.alike_bind (h.sends verb url body) fun reply => ?_
    refine Activity.alike_bind (Activity.alike_ofExcept _) fun r => ?_
    refine h.traced (by simp [Row.bodyPlaces]) _ ?_
    split
    · exact Activity.alike_pure _
    · exact Activity.alike_fail _

theorem Alike.attemptOr (h : c.Alike w v u d) {k l : Failure → Activity σ (List UInt8)}
    (hk : ∀ f, (k f).Alike w v u (l f)) :
    (c.attemptOr verb path body k).Alike w v u (d.attemptOr verb path body l) := by
  refine Activity.alike_bind (Activity.alike_attempt (h.sendOnce verb path body)) fun r => ?_
  cases r with
  | ok content => exact Activity.alike_pure content
  | error f =>
    refine Activity.alike_bind (Activity.alike_ofExcept _) fun retried => ?_
    cases retried with
    | true => exact hk f
    | false => exact Activity.alike_fail f

theorem Alike.attempts (h : c.Alike w v u d) (verb : Verb) (path : String)
    (body : Option (List UInt8)) (retry left : Nat) :
    (c.attempts verb path body retry left : Activity σ _).Alike w v u
      (d.attempts verb path body retry left) := by
  induction left generalizing retry with
  | zero =>
    refine h.attemptOr fun f => ?_
    exact Activity.alike_bind Activity.alike_draw fun _ => Activity.alike_fail f
  | succ left ih =>
    refine h.attemptOr fun f => ?_
    rw [h.retries, h.shortest, h.longest]
    refine Activity.alike_bind Activity.alike_draw fun jitter => ?_
    refine Activity.alike_bind (Activity.alike_note_of_agree h.agree (by decide) _) fun _ => ?_
    refine Activity.alike_bind (Activity.alike_pause (h.agree _ rfl)) fun _ => ?_
    exact ih (retry + 1)

theorem alike_settle (h : Agree v u) (f : Failure) :
    (settle verb path f : Activity σ _).Alike w v u (settle verb path f) := by
  have hnote (message : String) : (Client.note .error "_request" message : Activity σ _).Alike w v u
      (Client.note .error "_request" message) :=
    Activity.alike_note_of_agree h (by decide) _
  unfold settle
  split
  · split
    · exact Activity.alike_bind (hnote _) fun _ => Activity.alike_fail _
    · exact Activity.alike_fail _
  · dsimp only
    split
    · exact Activity.alike_bind (hnote _) fun _ => Activity.alike_fail _
    · exact Activity.alike_fail _
  · exact Activity.alike_fail _

theorem Alike.exchange (h : c.Alike w v u d) (verb : Verb) (path : String)
    (body : Option (List UInt8)) :
    (c.exchange verb path body : Activity σ _).Alike w v u (d.exchange verb path body) := by
  have hsettled {k l : Except Failure (List UInt8) → Activity σ (List UInt8)}
      (hok : ∀ content, (k (.ok content)).Alike w v u (l (.ok content)))
      (herror : ∀ f, (k (.error f)).Alike w v u (l (.error f))) :
      ((c.attempts verb path body 1 c.connection.maxRetries).attempt >>= k).Alike w v u
        ((d.attempts verb path body 1 d.connection.maxRetries).attempt >>= l) := by
    rw [h.retries]
    refine Activity.alike_bind (Activity.alike_attempt (h.attempts verb path body 1 _)) fun r => ?_
    cases r with
    | ok content => exact hok content
    | error f => exact herror f
  cases body with
  | none => exact hsettled Activity.alike_pure (alike_settle h.agree)
  | some content =>
    exact h.traced (by simp [Row.bodyPlaces]) _ (hsettled Activity.alike_pure (alike_settle h.agree))

end Client
end Outlier

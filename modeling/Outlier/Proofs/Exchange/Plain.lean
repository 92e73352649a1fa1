import Outlier.Exchange.Script
import Outlier.Proofs.Exchange.Attempts

/-! Plain responses, which the HTTP layer hands on as they are. -/
namespace Outlier

/-- A response with nothing to unpack and no character set. -/
structure Response.IsBare (r : Response) : Prop where
  ascii : Header.defect? r.headers = none
  packed : Header.values r.headers "content-encoding" = []
  charset : ∀ t, Header.value? r.headers "content-type" = some t →
    ContentType.charset? t = .ok none

/-- A plain response leads nowhere either. -/
structure Response.IsPlain (r : Response) : Prop extends r.IsBare where
  location : Redirect.location? r = none

namespace Response
variable {r : Response}

theorem unpacked_of_isBare (h : r.IsBare) : r.unpacked = .ok r := by
  have he : r.encodings = [] := by simp [encodings, h.packed]
  simp [unpacked, he, pure, Except.pure]

/-- The text of a bare response is its body read as UTF-8, with malformed parts replaced. -/
theorem text_of_isBare (h : r.IsBare) : r.text = .ok (Utf8.decodeLossy r.body) := by
  unfold text
  split
  · rename_i hb
    rw [List.isEmpty_iff.mp hb]
    rfl
  · cases ht : Header.value? r.headers "content-type" with
    | none => rfl
    | some t => simp [h.charset t ht, bind, Except.bind, pure, Except.pure]

end Response

namespace Client

variable {q : Request} {reply : Reply} {r : Response}

/-- A bare response is handed on unless it is unknown where it leads. -/
theorem taken_of_isBare (hr : reply.answer? = some r) (h : r.IsBare) :
    taken q reply = (checkLead q r).map fun _ => r := by
  have hu := Response.unpacked_of_isBare h
  cases reply with
  | response a =>
    cases hr
    simp only [taken, h.ascii, hu, bind, Except.bind]
    cases checkLead q r <;> rfl
  | streamed a =>
    cases hr
    simp only [taken, hu, bind, Except.bind]
    cases checkLead q r <;> rfl
  | raised f => cases hr

theorem taken_of_isPlain (hr : reply.answer? = some r) (hq : q.url.hasType = true)
    (h : r.IsPlain) : taken q reply = .ok r := by
  have hc : checkLead q r = .ok () := by
    rw [checkLead, if_pos hq]
    simp [Redirect.check, h.location]
  rw [taken_of_isBare hr h.toIsBare, hc]
  rfl

/-- A client is open from the start. -/
theorem of_create {x : Connection} {debug : Bool} {c : Client} (h : create x debug = .ok c) :
    ∃ base, Url.readBase x.url = .ok base ∧ c = ⟨x, base, debug, true⟩ := by
  unfold create at h
  split at h
  · cases h
  split at h
  · cases h
  split at h
  · cases h
  next base hbase =>
    dsimp only at h
    split at h
    · cases h
    · cases h
      exact ⟨base, hbase, rfl⟩

/-- A client with one retry at an address. -/
def trial (url : String) (base : Url) : Client where
  connection :=
    { debug := false
      logLevel := "INFO"
      token := "test-token"
      appName := "test-app"
      accountId := none
      url := url
      timeout := 30
      maxRetries := 1
      shortestWait := 0
      longestWait := 0
      caFile := none }
  base := base
  debug := false
  isOpen := true

def sample : Client := trial "https://h" ⟨"https".toList, ⟨[], ['h'], none⟩, [], none, none⟩

def paced (retries : Nat) (shortest longest : Float) : Client :=
  { sample with
    connection :=
      { sample.connection with
        maxRetries := retries, shortestWait := shortest, longestWait := longest } }

/-- The address of a client need not have a scheme. -/
def schemeless : Client := trial "/v2" ⟨[], ⟨[], [], none⟩, "/v2/".toList, none, none⟩

example : create sample.connection false = .ok sample := rfl

/-- A request of a client by its path. -/
def requestAt (c : Client) (path : String) : Request :=
  ⟨.get, { c.base with path := path.toList }, c.headers false, none⟩

end Client
end Outlier

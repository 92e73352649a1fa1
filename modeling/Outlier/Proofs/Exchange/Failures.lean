import Outlier.Exchange.Script
import Outlier.Proofs.Exchange.Decision

/-! What exchanges may fail with if a server is behind them. -/
namespace Outlier

/-- What comes from a server: a response, or a failure of the HTTP layer. -/
def Reply.IsServed : Reply → Prop
  | .response _ => True
  | .streamed _ => True
  | .raised f => ∃ t m, f = .trouble t m

/-- States in which only a server is behind a world, now and later. -/
structure World.IsServed {σ : Type} (w : World σ) (S : σ → Prop) : Prop extends w.Keeps S where
  reply : ∀ s q, S s → (w.respond s q).1.IsServed

theorem World.stateAt_mem {σ : Type} {w : World σ} {S : σ → Prop} (hw : w.Keeps S) (q : Request)
    (n : Nat) {s : σ} (hs : S s) : S (w.stateAt q s n) := by
  induction n generalizing s with
  | zero => exact hs
  | succ n ih => exact ih (hw.draw _ (hw.respond s q hs))

theorem Client.isServed_lastReply {σ : Type} {w : World σ} {S : σ → Prop} (hw : w.IsServed S)
    (c : Client) {s : σ} (hs : S s) (q : Request) : (c.lastReply w q s).IsServed := by
  unfold Client.lastReply
  split
  next d _ => cases d <;> exact ⟨_, _, rfl⟩
  · exact hw.reply _ q (World.stateAt_mem hw.toKeeps q _ hs)

/-- A script of what comes from servers. -/
theorem Script.isServed_world (jitter : Float) (threshold : Int) (clock : Clock) :
    (Script.world jitter threshold clock).IsServed fun s => ∀ reply ∈ s, reply.IsServed := by
  refine ⟨⟨?_, fun _ hs => hs⟩, ?_⟩
  · intro s q hs
    cases s with
    | nil => exact hs
    | cons reply s => exact fun x hx => hs x (List.mem_cons_of_mem _ hx)
  · intro s q hs
    cases s with
    | nil => exact ⟨_, _, rfl⟩
    | cons reply s => exact hs reply List.mem_cons_self

namespace Client
variable {σ : Type} {c : Client} {verb : Verb} {path : String} {body : Option (List UInt8)}
  {w : World σ} {q : Request} {s : σ} {f : Failure} {α β : Type}

/-! What keeps a response from being taken in is no fault of the client. -/

theorem isForeign_trouble (t : Trouble) (message : String) : IsForeign (.trouble t message) := nofun

theorem isForeign_notAscii (run : List Char) (position : Nat) :
    IsForeign (.notAscii run position) := nofun

theorem isForeign_hostname (d : Hostname.Defect) : IsForeign (.hostname d) := nofun

theorem isForeign_unreadable (u : Unreadable) : IsForeign (.unreadable u) := nofun

theorem isForeign_misuse (m : Misuse) : IsForeign (.misuse m) := nofun

def FailsForeign (x : Except Failure α) : Prop := ∀ f, x = .error f → IsForeign f

theorem failsForeign_ok (a : α) : FailsForeign (.ok a : Except Failure α) := nofun

theorem failsForeign_error (h : IsForeign f) : FailsForeign (.error f : Except Failure α) := by
  rintro g hg
  cases hg
  exact h

theorem failsForeign_mapError {ε : Type} {g : ε → Failure} (hg : ∀ e, IsForeign (g e))
    (x : Except ε α) : FailsForeign (x.mapError g) := by
  cases x with
  | error e => exact failsForeign_error (hg e)
  | ok a => exact failsForeign_ok a

theorem failsForeign_bind {x : Except Failure α} {g : α → Except Failure β}
    (hx : FailsForeign x) (hg : ∀ a, FailsForeign (g a)) : FailsForeign (x >>= g) := by
  cases x with
  | error e => exact failsForeign_error (hx e rfl)
  | ok a => exact hg a

theorem isForeign_unencodable {t : String} (h : Header.unencodable? t = some f) : IsForeign f := by
  unfold Header.unencodable? at h
  dsimp only at h
  split at h
  · cases h
  · cases h
    exact isForeign_notAscii _ _

theorem isForeign_defect {headers : Pairs String} (h : Header.defect? headers = some f) :
    IsForeign f := by
  obtain ⟨p, -, hp⟩ := List.exists_of_findSome?_eq_some h
  cases h1 : Header.unencodable? p.1 with
  | some g =>
    rw [h1] at hp
    cases hp
    exact isForeign_unencodable h1
  | none =>
    rw [h1] at hp
    exact isForeign_unencodable hp

theorem failsForeign_unpacked (a : Response) : FailsForeign a.unpacked := by
  unfold Response.unpacked
  split
  · exact failsForeign_ok _
  · exact failsForeign_error (isForeign_trouble _ _)

theorem failsForeign_hostOf (u : Url) : FailsForeign (Redirect.hostOf u) :=
  failsForeign_mapError isForeign_hostname _

theorem failsForeign_checkName (u : Url) : FailsForeign (Redirect.checkName u) := by
  unfold Redirect.checkName
  dsimp only
  split
  next h => exact failsForeign_error (isForeign_unencodable h)
  · exact failsForeign_ok ()

theorem failsForeign_placed (u location : Url) : FailsForeign (Redirect.placed u location) := by
  unfold Redirect.placed
  split
  · exact failsForeign_ok _
  · refine failsForeign_bind (failsForeign_hostOf location) fun host => ?_
    split
    · refine failsForeign_bind (failsForeign_hostOf u) fun own => ?_
      exact failsForeign_mapError (fun _ => isForeign_trouble _ _) _
    · exact failsForeign_ok _

theorem failsForeign_joined (u location : Url) : FailsForeign (Redirect.joined u location) := by
  unfold Redirect.joined
  split
  · exact failsForeign_ok _
  · refine failsForeign_bind (failsForeign_mapError (fun _ => isForeign_trouble _ _) _) fun text => ?_
    exact failsForeign_mapError (fun _ => isForeign_trouble _ _) _

theorem failsForeign_withOwnFragment (u location : Url) :
    FailsForeign (Redirect.withOwnFragment u location) := by
  unfold Redirect.withOwnFragment
  dsimp only
  split
  · exact failsForeign_ok _
  · exact failsForeign_mapError (fun _ => isForeign_trouble _ _) _

theorem failsForeign_check (u : Url) (a : Response) : FailsForeign (Redirect.check u a) := by
  unfold Redirect.check
  split
  · exact failsForeign_ok ()
  · have hread (location : String) : FailsForeign (Redirect.readLocation location) :=
      failsForeign_mapError (fun _ => isForeign_trouble _ _) _
    refine failsForeign_bind (hread _) fun location => ?_
    refine failsForeign_bind (failsForeign_placed u location) fun target => ?_
    refine failsForeign_bind (failsForeign_joined u target) fun target => ?_
    refine failsForeign_bind (failsForeign_withOwnFragment u target) fun target => ?_
    exact failsForeign_bind (failsForeign_hostOf target) fun _ => failsForeign_checkName target

theorem failsForeign_checkLead (q : Request) (a : Response) : FailsForeign (checkLead q a) := by
  unfold checkLead
  split
  · exact failsForeign_check q.url a
  · exact failsForeign_error (isForeign_misuse _)

theorem failsForeign_taken {reply : Reply} (h : reply.IsServed) (q : Request) :
    FailsForeign (taken q reply) := by
  cases reply with
  | response a =>
    cases hd : Header.defect? a.headers with
    | some f =>
      simp only [taken, hd]
      exact failsForeign_error (isForeign_defect hd)
    | none =>
      simp only [taken, hd]
      refine failsForeign_bind (failsForeign_unpacked a) fun a => ?_
      exact failsForeign_bind (failsForeign_checkLead q a) fun _ => failsForeign_ok a
  | streamed a =>
    exact failsForeign_bind (failsForeign_checkLead q a) fun _ => failsForeign_unpacked a
  | raised g =>
    obtain ⟨t, m, rfl⟩ := h
    exact failsForeign_error (isForeign_trouble t m)

/-- Only the status of a fault can be something that no number compares with. -/
theorem not_isForeign_of_unordered {m : Misuse} (h : f.isRetryable = .error m) :
    ¬ IsForeign f := by
  intro hf
  cases f with
  | fault g cause => exact hf g cause rfl
  | _ => cases h

/-- The faults of an exchange are its own. -/
def IsOwn (f : Failure) : Prop :=
  ∃ g cause, f = .fault g cause ∧ (g.kind = .response ∨ g.kind = .transport)

theorem exchange_error (hw : ∀ q, (c.lastReply w q s).IsServed)
    (h : (c.exchange verb path body w s).result = .error f) :
    IsForeign f ∨ IsOwn f := by
  cases hq : c.request verb path body with
  | error g =>
    rw [exchange_refused hq] at h
    cases h
    exact .inl (request_error hq).foreign
  | ok q =>
    have hforeign : FailsForeign (taken q (c.lastReply w q s)) := failsForeign_taken (hw q) q
    rw [exchange_result hq] at h
    have hd : Decided verb path (taken q (c.lastReply w q s)) (.error f) := by
      rw [← h]
      exact decided_concluded _
    generalize taken q (c.lastReply w q s) = x at hd hforeign
    cases hd with
    | refusal hs ht => exact .inr ⟨_, _, rfl, .inl rfl⟩
    | unreadable hs hu => exact .inl (isForeign_unreadable _)
    | broken ht => exact .inr ⟨_, _, rfl, .inr rfl⟩
    | unordered hf => exact .inl (isForeign_misuse _)
    | other hf ht => exact .inl (hforeign f rfl)

end Client
end Outlier

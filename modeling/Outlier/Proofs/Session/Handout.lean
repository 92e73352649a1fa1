import Outlier.Exchange.Script
import Outlier.Proofs.Resource.Closing
import Outlier.Proofs.Resource.Safety
import Outlier.Proofs.Session.Caches

/-! Facades that are handed out again and again, and may have been closed meanwhile. -/
namespace Outlier

variable {σ τ : Type} {w : World σ} {file : Option String} {t : Session} {k : Nat}
  {history : List (Session.Act σ)}

/-- What comes of an operation through a client. Requests are made, all of them alike, if it is
open; otherwise nothing is sent. -/
structure Serves (c : Client) (w : World σ) (s : σ) (op : Operation) (p : Plan) (url : Url) :
    Prop where
  requests : c.isOpen = true → ∃ n,
    (op.call.perform .outlierReport c w s).events.filterMap Event.request? =
      List.replicate (n + 1) ⟨p.verb, url, c.headers p.content.isSome, p.content⟩
  refused : c.isOpen = false →
    (op.call.perform .outlierReport c w s).events.filterMap Event.request? = [] ∧
      (op.call.perform .outlierReport c w s).result = .error .closed

theorem serves_of_located {c : Client} {op : Operation} {p : Plan} {url : Url}
    (hp : op.plan .outlierReport = .ok p) (hl : c.located p.path = .ok url) (s : σ) :
    Serves c w s op p url where
  requests hopen := by
    have hq : c.request p.verb p.path p.content =
        .ok ⟨p.verb, url, c.headers p.content.isSome, p.content⟩ := by
      rw [Client.request_of_located hl, if_pos hopen]
    rw [Operation.requests_of_plan hp]
    exact Client.requests_exchange hq
  refused hclosed := by
    have hq : c.request p.verb p.path p.content = .error .closed := by
      rw [Client.request_of_located hl, hclosed, if_neg Bool.false_ne_true]
    refine ⟨?_, ?_⟩
    · rw [Operation.requests_of_plan hp]
      exact Client.requests_exchange_refused hq
    · rw [Operation.perform_of_plan hp, Plan.run_of_closed hclosed, Client.refusal, hl]

namespace Session

/-- A use that closes the facade with a number. -/
def Act.closes (k : Nat) : Act σ → Bool
  | .use j call _ => j == k && call.closes
  | _ => false

theorem client_facade (k : Nat) (y : Facade) (a : Act σ) :
    (a.facade k y).client = if a.closes k then y.client.close else y.client := by
  cases a with
  | use j call _ =>
    by_cases hj : j = k
    · simp [Act.facade, Act.closes, hj, Call.after]
    · simp [Act.facade, Act.closes, hj]
  | _ => rfl

theorem client_foldl_facade (later : List (Act σ)) (k : Nat) (y : Facade) :
    (later.foldl (Act.facade k) y).client =
      if later.any (Act.closes k) then y.client.close else y.client := by
  induction later generalizing y with
  | nil => rfl
  | cons a later ih =>
    rw [List.foldl_cons, ih, client_facade, List.any_cons]
    cases a.closes k with
    | false => rfl
    | true => rw [if_pos rfl, Bool.true_or, if_pos rfl, Client.close_of_closed rfl, ite_self]

/-- The facade that is handed out is the one that was built, and serves as long as nobody has closed
it since. Neither closing it nor anything else but clearing puts a new one in its place. -/
theorem handed_out_open_iff (w : World σ)
    (h : getFacade.run (reached w file history) = (.ok k, t)) :
    ∃ n x c before between y,
      FacadeOrigin w file (history ++ [.getFacade]) k n x c before between ∧
      t.facades[k]? = some y ∧
      (y.client.isOpen = true ↔ ∀ a ∈ between, a.closes k = false) ∧
      ∀ (s : σ) (op : Operation) (p : Plan) (url : Url), op.plan .outlierReport = .ok p →
        c.located p.path = .ok url → Serves y.client w s op p url := by
  have hreached : reached w file (history ++ [.getFacade]) = t :=
    (reached_concat history .getFacade).trans (congrArg Prod.snd h)
  have hcached : (reached w file (history ++ [.getFacade])).cachedFacade = some k :=
    hreached ▸ cachedFacade_of_ok (sound_reached history) h
  obtain ⟨n, x, c, before, between, horigin, hy, -⟩ := exists_facadeOrigin hcached
  have hclient := client_foldl_facade between k ⟨n, c⟩
  have hc : c.isOpen = true := by
    obtain ⟨base, -, rfl⟩ := Client.of_create horigin.built
    rfl
  refine ⟨n, x, c, before, between, _, horigin, hreached ▸ hy, ?_, ?_⟩
  · rw [hclient]
    cases hany : between.any (Act.closes k) with
    | false => simpa [hc] using hany
    | true => simpa [Client.close] using hany
  · intro s op p url hp hl
    rw [hclient]
    split
    · exact serves_of_located (c := c.close) hp hl s
    · exact serves_of_located hp hl s

/-- A facade that has been closed is replaced once it is cleared. -/
theorem handed_out_open_iff_cleared :
    let history : List (Act Script) := [.setVariable "CIRCONUS_API_TOKEN" (some "t"), .getFacade,
      .use 0 .close [], .clearFacade]
    let s := reached (Script.world 0 0) none history
    (getFacade.run s).1.toOption = some 1 ∧ ∃ n x c before between,
      FacadeOrigin (Script.world 0 0) none (history ++ [.getFacade]) 1 n x c before between := by
  intro history s
  have hs : (getFacade.run s).1.toOption = some 1 := by decide +kernel
  obtain ⟨n, x, c, before, between, y, horigin, -⟩ :=
    handed_out_open_iff (Script.world 0 0) (Visit.run_of_toOption_some hs)
  exact ⟨hs, n, x, c, before, between, horigin⟩

/-- Who has left a block of work with the facade is handed the closed one, which fetches nothing. -/
theorem handed_out_closed :
    let history : List (Act Script) := [.setVariable "CIRCONUS_API_TOKEN" (some "t"), .getFacade,
      .use 0 .scope []]
    let s := reached (Script.world 0 0) none history
    (getFacade.run s).1.toOption = some 0 ∧
      (s.facades[0]?).map (·.client.isOpen) = some false ∧
      (Session.use (Script.world 0 0) [] 0 (.fetch (.text "1")) s).any
        (·.1.result matches .error .closed) = true := by
  decide +kernel

end Session
end Outlier

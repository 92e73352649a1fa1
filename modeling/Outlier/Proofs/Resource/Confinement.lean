import Mathlib.Data.List.TakeDrop
import Mathlib.Data.List.TakeWhile
import Outlier.Exchange.Script
import Outlier.Proofs.Exchange.Plain
import Outlier.Proofs.Resource.Alike
import Outlier.Session

/-! The token of a connection stays in the header that is there for it: whoever is shown everything
but the value of that header cannot tell two tokens apart. -/
namespace Outlier

variable {σ : Type} {w : World σ}

/-! What is shown. -/

/-- The name of the header for tokens. -/
def Header.forToken : String := "x-circonus-auth-token"

def Request.masked (q : Request) : Request :=
  { q with headers := q.headers.map fun h => if h.1 = Header.forToken then (h.1, "") else h }

def Event.masked : Event → Event
  | .sent q => .sent q.masked
  | e => e

def Outcome.masked {α : Type} (o : Outcome σ α) : Outcome σ α :=
  { o with events := o.events.map Event.masked }

/-- The sight of someone who is shown no tokens. -/
def maskTokens : Sight := fun e => some e.masked

theorem Outcome.seen_maskTokens {α : Type} (o : Outcome σ α) : o.seen maskTokens = o.masked := by
  have hmap (es : List Event) : es.filterMap maskTokens = es.map Event.masked :=
    congrFun (List.filterMap_eq_map' (f := Event.masked)) es
  rw [seen, hmap, masked]

/-- A world whose replies do not depend on tokens. -/
def World.IsBlind (w : World σ) : Prop :=
  ∀ s q p, q.masked = p.masked → w.respond s q = w.respond s p

theorem Script.isBlind_world (jitter : Float) (threshold : Int) (clock : Clock) :
    (Script.world jitter threshold clock).IsBlind := by
  intro s q p _
  cases s <;> rfl

theorem Activity.alike_send (hw : w.IsBlind) {q p : Request} (h : q.masked = p.masked) :
    (send q : Activity σ Reply).Alike w maskTokens maskTokens (send p) := by
  intro s
  rw [Outcome.seen_maskTokens, Outcome.seen_maskTokens, send, hw s q p h]
  exact congrArg (Outcome.mk [.sent ·] _ _) h

/-! Clients with other tokens. -/

/-- A text that is accepted as a token. -/
structure IsToken (t : String) : Prop where
  given : t.isEmpty = false
  ascii : ∀ c ∈ t.toList, isAscii c = true

theorem IsToken.unencodable?_eq {t : String} (h : IsToken t) : Header.unencodable? t = none := by
  rw [Header.unencodable?, List.span_eq_takeWhile_dropWhile,
    List.dropWhile_eq_nil_iff.mpr h.ascii]
  rfl

def Connection.withToken (t : String) (x : Connection) : Connection := { x with token := t }

def Settings.withToken (t : String) (x : Settings) : Settings :=
  { x with api := x.api.withToken t }

@[simp] theorem Settings.debug_withToken (t : String) (x : Settings) :
    (x.withToken t).debug = x.debug := rfl

namespace Client

def withToken (t : String) (c : Client) : Client :=
  { c with connection := c.connection.withToken t }

theorem withToken_after (t : String) (call : Call) (c : Client) :
    call.after (c.withToken t) = (call.after c).withToken t := by
  unfold Call.after
  split <;> rfl

/-- Tokens decide neither whether there is a client nor what else it has. -/
theorem create_withToken {t t' : String} (ht : IsToken t) (ht' : IsToken t') (x : Settings)
    (debug : Bool) :
    create (x.withToken t').api debug =
      (create (x.withToken t).api debug).map (withToken t') := by
  simp only [create, Settings.withToken, Connection.withToken, ht.given, ht'.given,
    List.findSome?_cons, ht.unencodable?_eq, ht'.unencodable?_eq, Bool.false_eq_true, if_false]
  split
  · rfl
  split
  · rfl
  split <;> rfl

theorem masked_headers (c : Client) (t : String) (verb : Verb) (url : Url)
    (body : Option (List UInt8)) :
    Request.masked ⟨verb, url, (c.withToken t).headers body.isSome, body⟩ =
      Request.masked ⟨verb, url, c.headers body.isSome, body⟩ := by
  simp [Request.masked, headers, withToken, Connection.withToken, Header.forToken]

theorem alike_withToken (hw : w.IsBlind) (c : Client) (t : String) :
    Alike w maskTokens maskTokens c (c.withToken t) where
  base := rfl
  isOpen := rfl
  url := rfl
  retries := rfl
  shortest := rfl
  longest := rfl
  agree := fun _ _ => rfl
  sends := fun verb url body => Activity.alike_send hw (masked_headers c t verb url body).symm
  traces := .inl ⟨rfl, rfl⟩

end Client

theorem Facade.alike_greet {c d : Client} {v : Sight} (h : c.Alike w v v d) :
    (greet c : Activity σ Unit).Alike w v v (greet d) := by
  rw [greet, greet, greeting, greeting, h.url]
  exact Activity.alike_note rfl

/-! Programs. -/

/-- What a program does with settings. It makes clients, on their own or in facades, puts facades
over clients that it has, and runs errands on them. -/
inductive Step where
  | client (debug : Bool)
  | facade
  | facadeOver (k : Nat)
  | errand (k : Nat) (e : Errand)

namespace Step

def perform (x : Settings) (cs : List Client) : Step → Activity σ Answer
  | .client debug => do
    let _ ← .ofExcept (Client.create x.api debug)
    return .nothing
  | .facade => do
    Facade.greet (← .ofExcept (Client.create x.api x.debug))
    return .nothing
  | .facadeOver k => match cs[k]? with
    | some c => do
      Facade.greet c
      return .nothing
    | none => return .nothing
  | .errand k e => match cs[k]? with
    | some c => e.call.perform e.resource c
    | none => return .nothing

/-- The clients after a step. -/
def after (x : Settings) (cs : List Client) : Step → List Client
  | .client debug => cs ++ (Client.create x.api debug).toOption.toList
  | .facade => cs ++ (Client.create x.api x.debug).toOption.toList
  | .facadeOver _ => cs
  | .errand k e => cs.modify k e.call.after

/-- The outcomes of steps, in a world that keeps its state from one to the next. -/
def run (w : World σ) (x : Settings) : List Step → List Client → σ → List (Outcome σ Answer)
  | [], _, _ => []
  | step :: steps, cs, s =>
    let o := step.perform x cs w s
    o :: run w x steps (step.after x cs) o.state

variable {t t' : String} (ht : IsToken t) (ht' : IsToken t') (x : Settings) (cs : List Client)

include ht ht'

/-- The clients with another token are those that there would be, with that token. -/
theorem after_withToken (step : Step) :
    step.after (x.withToken t') (cs.map (Client.withToken t')) =
      (step.after (x.withToken t) cs).map (Client.withToken t') := by
  have hmade (debug : Bool) :
      cs.map (Client.withToken t') ++
          (Client.create (x.withToken t').api debug).toOption.toList =
        (cs ++ (Client.create (x.withToken t).api debug).toOption.toList).map
          (Client.withToken t') := by
    rw [Client.create_withToken ht ht']
    cases Client.create (x.withToken t).api debug <;> simp [Except.map, Except.toOption]
  cases step with
  | client debug => exact hmade debug
  | facade => exact hmade x.debug
  | facadeOver k => rfl
  | errand k e =>
    refine List.ext_getElem? fun i => ?_
    simp only [after, List.getElem?_modify, List.getElem?_map, Option.map_eq_map, Option.map_map]
    congr 1
    funext c
    simp only [Function.comp_apply, Client.withToken_after]
    split <;> rfl

theorem alike_perform (hw : w.IsBlind) (step : Step) :
    (step.perform (x.withToken t) cs : Activity σ Answer).Alike w maskTokens maskTokens
      (step.perform (x.withToken t') (cs.map (Client.withToken t'))) := by
  have hc (c : Client) := Client.alike_withToken hw c t'
  cases step with
  | client debug =>
    rw [perform, perform, Client.create_withToken ht ht']
    cases Client.create (x.withToken t).api debug with
    | error f => exact Activity.alike_fail f
    | ok c => exact Activity.alike_pure _
  | facade =>
    rw [perform, perform, Settings.debug_withToken, Settings.debug_withToken,
      Client.create_withToken ht ht']
    cases Client.create (x.withToken t).api x.debug with
    | error f => exact Activity.alike_fail f
    | ok c =>
      rw [Except.map, Activity.ofExcept_ok_bind, Activity.ofExcept_ok_bind]
      exact Activity.alike_bind (Facade.alike_greet (hc c)) fun _ => Activity.alike_pure _
  | facadeOver k =>
    rw [perform, perform, List.getElem?_map]
    cases cs[k]? with
    | none => exact Activity.alike_pure _
    | some c => exact Activity.alike_bind (Facade.alike_greet (hc c)) fun _ => Activity.alike_pure _
  | errand k e =>
    rw [perform, perform, List.getElem?_map]
    cases cs[k]? with
    | none => exact Activity.alike_pure _
    | some c => exact Call.alike_perform (hc c) e.call

/-- The clients of the second run are at each step those of the first one with the other token. -/
theorem masked_run (hw : w.IsBlind) (steps : List Step) (s : σ) :
    (run w (x.withToken t) steps cs s).map Outcome.masked =
      (run w (x.withToken t') steps (cs.map (Client.withToken t')) s).map Outcome.masked := by
  induction steps generalizing cs s with
  | nil => rfl
  | cons step steps ih =>
    have hstep := alike_perform ht ht' x cs hw step s
    have hstate : (step.perform (x.withToken t) cs w s).state =
        (step.perform (x.withToken t') (cs.map (Client.withToken t')) w s).state :=
      (Outcome.mk.inj hstep).2.1
    rw [Outcome.seen_maskTokens, Outcome.seen_maskTokens] at hstep
    rw [run, run, List.map_cons, List.map_cons, hstep, hstate, after_withToken ht ht', ih]

end Step

/-- Over the same replies, with the same random numbers and by the same clock, programs that differ
in their tokens leave the same behind: the same requests but for the header with the token, the same
waits and rows, and the same results. -/
theorem Step.token_confined (x : Settings) {t t' : String} (ht : IsToken t) (ht' : IsToken t')
    (jitter : Float) (threshold : Int) (clock : Clock) (steps : List Step) (replies : Script) :
    let w := Script.world jitter threshold clock
    (run w (x.withToken t) steps [] replies).map Outcome.masked =
      (run w (x.withToken t') steps [] replies).map Outcome.masked :=
  masked_run ht ht' x [] (Script.isBlind_world jitter threshold clock) steps replies

/-- A facade that shows bodies, and a fetch through it that is sent twice. -/
theorem Step.token_confined_retried :
    let x : Settings := ⟨⟨true, "INFO"⟩, Client.sample.connection⟩
    let steps := [facade, errand 0 ⟨.outlierReport, .fetch (.text "1")⟩]
    let script : Script := [.response ⟨500, [], []⟩, .response ⟨200, [], []⟩]
    IsToken "a" ∧ IsToken "b c" ∧
      (run (Script.world 0 1) (x.withToken "a") steps [] script).map Outcome.masked =
        (run (Script.world 0 1) (x.withToken "b c") steps [] script).map Outcome.masked := by
  intro x steps script
  have ha : IsToken "a" := ⟨rfl, List.all_eq_true.mp rfl⟩
  have hb : IsToken "b c" := ⟨rfl, List.all_eq_true.mp rfl⟩
  exact ⟨ha, hb, token_confined x ha hb 0 1 Clock.patient steps script⟩

end Outlier

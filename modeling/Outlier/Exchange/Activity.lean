import Outlier.Exchange.Clock
import Outlier.Exchange.Message

/-! Activities: what they leave behind, in order, in a world that answers requests. -/
namespace Outlier

/-- A world in states `σ` answers requests, draws random numbers and has a clock, which may go on
from state to state; rows below its threshold do not reach the journal. -/
structure World (σ : Type) where
  respond : σ → Request → Reply × σ
  draw : σ → Float × σ
  clock : σ → Clock
  threshold : Int

structure Outcome (σ α : Type) where
  events : List Event
  state : σ
  result : Except Failure α

def Activity (σ α : Type) : Type := World σ → σ → Outcome σ α

namespace Activity
variable {σ α β : Type}

def done (a : α) : Activity σ α := fun _ s => ⟨[], s, .ok a⟩

def fail (f : Failure) : Activity σ α := fun _ s => ⟨[], s, .error f⟩

def followedBy (x : Activity σ α) (f : α → Activity σ β) : Activity σ β := fun w s =>
  match x w s with
  | ⟨es, s, .ok a⟩ =>
    let o := f a w s
    { o with events := es ++ o.events }
  | ⟨es, s, .error e⟩ => ⟨es, s, .error e⟩

instance : Monad (Activity σ) where
  pure := done
  bind := followedBy

/-- The failure of an activity as its result. -/
def attempt (x : Activity σ α) : Activity σ (Except Failure α) := fun w s =>
  let o := x w s
  ⟨o.events, o.state, .ok o.result⟩

def ofExcept : Except Failure α → Activity σ α
  | .ok a => done a
  | .error f => fail f

def send (r : Request) : Activity σ Reply := fun w s =>
  let (reply, s) := w.respond s r
  ⟨[.sent r], s, .ok reply⟩

def draw : Activity σ Float := fun w s =>
  let (jitter, s) := w.draw s
  ⟨[], s, .ok jitter⟩

/-- A wait that the clock is asked for, which it may refuse. -/
def pause (p : Pause) : Activity σ Unit := fun w s =>
  match w.clock s p.seconds with
  | none => ⟨[.slept p], s, .ok ()⟩
  | some d => ⟨[.slept p], s, .error d.failure⟩

def note (logger : String) (severity : Severity) (message : String) : Activity σ Unit := fun w s =>
  if Row.enabled w.threshold severity.level then
    ⟨[.logged (Row.plain logger severity message)], s, .ok ()⟩
  else ⟨[], s, .ok ()⟩

def noteWith (logger : String) (severity : Severity) (message : String) (context : Pairs Value) :
    Activity σ Unit := fun w s =>
  match Row.withContext w.threshold logger (.int severity.level) message context with
  | .ok row => ⟨row.toList.map .logged, s, .ok ()⟩
  | .error m => ⟨[], s, .error (.misuse m)⟩

/-! What is done one after another leaves behind what each part does, up to a failure. -/

theorem followedBy_done (x : Activity σ α) : x.followedBy done = x := by
  funext w s
  cases hx : x w s with
  | mk es s' r => cases r <;> simp [followedBy, done, hx]

theorem followedBy_assoc {γ : Type} (x : Activity σ α) (f : α → Activity σ β)
    (g : β → Activity σ γ) :
    (x.followedBy f).followedBy g = x.followedBy fun a => (f a).followedBy g := by
  funext w s
  cases hx : x w s with
  | mk es s' r =>
    cases r with
    | error e => simp [followedBy, hx]
    | ok a =>
      cases hf : f a w s' with
      | mk fs t r => cases r <;> simp [followedBy, hx, hf]

instance : LawfulMonad (Activity σ) :=
  LawfulMonad.mk' (Activity σ) (fun x => followedBy_done x) (fun _ _ => rfl)
    (fun x f g => followedBy_assoc x f g)

end Activity
end Outlier

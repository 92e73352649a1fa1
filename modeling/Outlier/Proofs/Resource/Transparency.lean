import Outlier.Proofs.Resource.Alike

/-! Showing bodies changes nothing else: not what is sent, nor how long is waited, nor what comes of
a call. -/
namespace Outlier

variable {σ : Type}

def Outcome.withoutBodies {α : Type} (o : Outcome σ α) : Outcome σ α :=
  { o with events := o.events.filter (!·.showsBody) }

/-- The sight of someone who overlooks rows that show bodies. -/
def hideBodies : Sight := fun e => if e.showsBody then none else some e

theorem Outcome.seen_hideBodies {α : Type} (o : Outcome σ α) :
    o.seen hideBodies = o.withoutBodies := by
  have hfilter (es : List Event) : es.filterMap hideBodies = es.filter (!·.showsBody) := by
    rw [← List.filterMap_eq_filter]
    congr 1
    funext e
    cases he : e.showsBody <;> simp [hideBodies, Option.guard, he]
  rw [seen, hfilter, withoutBodies]

namespace Client

theorem create_eq (connection : Connection) (debug : Bool) :
    create connection debug = (fun c => { c with debug }) <$> create connection false := by
  unfold create
  split
  · rfl
  split
  · rfl
  split
  · rfl
  dsimp only
  split <;> rfl

theorem debug_of_create {connection : Connection} {debug : Bool} {c : Client}
    (h : create connection debug = .ok c) : c.debug = debug := by
  rw [create_eq] at h
  obtain ⟨d, -, h⟩ := ok_of_bind h
  cases h
  rfl

/-- A client that shows bodies looks as one that does not, once these rows are overlooked. -/
theorem alike_debug (w : World σ) (c : Client) (debug : Bool) (h : c.debug = false) :
    Alike w hideBodies some { c with debug } c where
  base := rfl
  isOpen := rfl
  url := rfl
  retries := rfl
  shortest := rfl
  longest := rfl
  agree := fun e he => by rw [hideBodies, he]; rfl
  sends := fun _ _ _ _ => rfl
  traces := .inr ⟨fun e he => by rw [hideBodies, he]; rfl, h⟩

end Client

/-- A client that shows bodies can be made where one can that does not. On the same errands, in the
same world, the one leaves behind what the other does and the rows that show bodies. -/
theorem Errand.debug_transparent (connection : Connection) (w : World σ) (es : List Errand)
    (s : σ) :
    match Client.create connection true, Client.create connection false with
    | .ok on, .ok off => run w es off s = (run w es on s).map Outcome.withoutBodies
    | .error f, .error g => f = g
    | _, _ => False := by
  rw [Client.create_eq connection true]
  cases hc : Client.create connection false with
  | error f => rfl
  | ok off =>
    have h := Client.alike_debug w off true (Client.debug_of_create hc)
    have hrun := alike_run h es s
    rw [funext Outcome.seen_some, List.map_id'] at hrun
    rw [← funext Outcome.seen_hideBodies]
    exact hrun.symm

end Outlier

import Outlier.Resource

/-! Calls on a client and on a resource over it, one after another. -/
namespace Outlier

inductive Call where
  | get (path : String)
  | post (path : String) (body : List UInt8)
  | put (path : String) (body : List UInt8)
  | deletePath (path : String)
  | baseUrl
  | close
  | scope
  | normalize (cid : Value)
  | fetch (cid : Value)
  | fetchAll
  | create (record : Option Record)
  | update (record : Option Record)
  | delete (record : Option Record)
  | deleteByCid (cid : Value)
  | search (query : Option String) (filters : Pairs Value)

/-- What a call gives back. -/
inductive Answer where
  | body (content : List UInt8)
  | text (s : String)
  | done
  | nothing
  | record (r : Record)
  | records (rs : List Record)

namespace Call
variable {σ : Type} (r : Resource) (c : Client)

/-- Leaving a scope closes the client, as closing it does. -/
def closes : Call → Bool
  | .close | .scope => true
  | _ => false

def perform : Call → Activity σ Answer
  | .get path => .body <$> c.get path
  | .post path content => .body <$> c.post path content
  | .put path content => .body <$> c.put path content
  | .deletePath path => .body <$> c.delete path
  | .baseUrl => pure (.text c.connection.url)
  | .close => pure .nothing
  | .scope => pure .done
  | .normalize cid => .text <$> .ofExcept (r.normalize cid)
  | .fetch cid => .record <$> r.fetch c cid
  | .fetchAll => .records <$> r.fetchAll c
  | .create record => .record <$> r.create c record
  | .update record => .record <$> r.update c record
  | .delete record => (fun _ => .done) <$> r.delete c record
  | .deleteByCid cid => (fun _ => .done) <$> r.deleteByCid c cid
  | .search query filters => .records <$> r.search c query filters

/-- The client after a call. -/
def after (call : Call) : Client := if call.closes then c.close else c

/-- The outcomes of calls, in a world that keeps its state from one to the next. -/
def run (w : World σ) : List Call → Client → σ → List (Outcome σ Answer)
  | [], _, _ => []
  | call :: calls, c, s =>
    let o := call.perform r c w s
    o :: run w calls (call.after c) o.state

end Call
end Outlier

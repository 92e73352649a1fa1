import Outlier.Call
import Outlier.Proofs.Activity

/-! Operations on a resource. The arguments alone decide which request is made, if any. -/
namespace Outlier

/-- The calls on a resource that make a request. -/
inductive Operation where
  | fetch (cid : Value)
  | fetchAll
  | create (record : Option Record)
  | update (record : Option Record)
  | delete (record : Option Record)
  | deleteByCid (cid : Value)
  | search (query : Option String) (filters : Pairs Value)

def Operation.call : Operation → Call
  | .fetch cid => .fetch cid
  | .fetchAll => .fetchAll
  | .create record => .create record
  | .update record => .update record
  | .delete record => .delete record
  | .deleteByCid cid => .deleteByCid cid
  | .search query filters => .search query filters

/-- What the body of an answer is read as. -/
inductive Expected where
  | fetched | record | records | nothing

namespace Expected

def read (m : Model) (body : List UInt8) : Expected → Except Rejection Answer
  | .fetched | .record => .record <$> Record.ofBody m body
  | .records => .records <$> Record.allOfBody m body
  | .nothing => .ok .done

/-- What is named as being parsed. -/
def subject (r : Resource) : Expected → String
  | .records => r.plural
  | _ => r.name

end Expected

/-- The request of an operation, and how the operation goes on about it. -/
structure Plan where
  operation : String
  context : String
  verb : Verb
  path : String
  content : Option (List UInt8)
  expected : Expected

namespace Plan

def all (r : Resource) : Plan :=
  ⟨"fetch_all", "fetching " ++ r.plural, .get, r.collection, none, .records⟩

def deletion (r : Resource) (path : String) : Plan :=
  ⟨"delete", "deleting " ++ r.name, .delete, path, none, .nothing⟩

variable {σ : Type} (r : Resource) (c : Client) (p : Plan)

def opening : Activity σ Unit :=
  match p.content with
  | some content => Resource.trace c p.operation "sending" content
  | none => pure ()

def closing (body : List UInt8) : Activity σ Unit :=
  match p.expected with
  | .fetched => Resource.trace c p.operation "received" body
  | .nothing =>
    .note Resource.journal .info (Resource.place "delete_by_cid" ++ "deleted " ++ p.path)
  | _ => pure ()

def answer (body : List UInt8) : Except Failure Answer :=
  (p.expected.read r.model body).mapError (r.parseFault (p.expected.subject r))

def run : Activity σ Answer := do
  p.opening c
  let body ← r.guarded p.context p.operation (c.exchange p.verb p.path p.content)
  p.closing c body
  .ofExcept (p.answer r body)

end Plan

/-- The plan of an operation, unless its arguments do not pass the checks. -/
def Operation.plan (r : Resource) : Operation → Except Failure Plan
  | .fetch cid => do
    return ⟨"fetch", "fetching " ++ r.name, .get, ← r.normalize cid, none, .fetched⟩
  | .fetchAll => .ok (.all r)
  | .create record => do
    let content ← Resource.bodyOf (← r.require record)
    return ⟨"create", "creating " ++ r.name, .post, r.collection, some content, .record⟩
  | .update record => do
    let record ← r.require record
    let path ← r.checkFull (record.get .cid)
    return ⟨"update", "updating " ++ r.name, .put, path, some (← Resource.bodyOf record), .record⟩
  | .delete record => do
    return .deletion r (← r.normalize ((← r.require record).get .cid))
  | .deleteByCid cid => do return .deletion r (← r.normalize cid)
  | .search query filters => do
    let criteria ← (Search.criteria query filters).mapError .misuse
    return if criteria.isEmpty then .all r
      else ⟨"search", "searching " ++ r.plural, .get,
        r.collection ++ "?" ++ Search.encode criteria, none, .records⟩

/-- The plan of an operation by what its checks make of the arguments. -/
inductive Planned (r : Resource) : Operation → Plan → Prop
  | fetch {cid : Value} {path : String} (h : r.normalize cid = .ok path) :
    Planned r (.fetch cid) ⟨"fetch", "fetching " ++ r.name, .get, path, none, .fetched⟩
  | fetchAll : Planned r .fetchAll (.all r)
  | create {record : Record} {content : List UInt8} (h : Resource.bodyOf record = .ok content) :
    Planned r (.create (some record))
      ⟨"create", "creating " ++ r.name, .post, r.collection, some content, .record⟩
  | update {record : Record} {path : String} {content : List UInt8}
    (hp : r.checkFull (record.get .cid) = .ok path) (h : Resource.bodyOf record = .ok content) :
    Planned r (.update (some record))
      ⟨"update", "updating " ++ r.name, .put, path, some content, .record⟩
  | delete {record : Record} {path : String} (h : r.normalize (record.get .cid) = .ok path) :
    Planned r (.delete (some record)) (.deletion r path)
  | deleteByCid {cid : Value} {path : String} (h : r.normalize cid = .ok path) :
    Planned r (.deleteByCid cid) (.deletion r path)
  | searchAll {query : Option String} {filters : Pairs Value}
    (h : Search.criteria query filters = .ok []) : Planned r (.search query filters) (.all r)
  | search {query : Option String} {filters : Pairs Value} {criteria : List (String × Value)}
    (h : Search.criteria query filters = .ok criteria) (hc : criteria ≠ []) :
    Planned r (.search query filters) ⟨"search", "searching " ++ r.plural, .get,
      r.collection ++ "?" ++ Search.encode criteria, none, .records⟩

namespace Operation
variable {σ : Type} {r : Resource} {c : Client} {p : Plan}

theorem ok_bind {α β : Type} (a : α) (f : α → Except Failure β) : Except.ok a >>= f = f a := rfl

theorem require_eq {record : Option Record} {a : Record} (h : r.require record = .ok a) :
    record = some a := by
  cases record with
  | none => cases h
  | some b => cases h; rfl

theorem planned_of_plan {op : Operation} (h : op.plan r = .ok p) : Planned r op p := by
  cases op with
  | fetch cid =>
    obtain ⟨path, hp, h⟩ := ok_of_bind h
    cases h
    exact .fetch hp
  | fetchAll =>
    cases h
    exact .fetchAll
  | create record =>
    obtain ⟨a, ha, ht⟩ := ok_of_bind h
    obtain ⟨content, hc, ht⟩ := ok_of_bind ht
    cases require_eq ha
    cases ht
    exact .create hc
  | update record =>
    obtain ⟨a, ha, ht⟩ := ok_of_bind h
    obtain ⟨path, hp, ht⟩ := ok_of_bind ht
    obtain ⟨content, hc, ht⟩ := ok_of_bind ht
    cases require_eq ha
    cases ht
    exact .update hp hc
  | delete record =>
    obtain ⟨a, ha, ht⟩ := ok_of_bind h
    obtain ⟨path, hp, ht⟩ := ok_of_bind ht
    cases require_eq ha
    cases ht
    exact .delete hp
  | deleteByCid cid =>
    obtain ⟨path, hp, h⟩ := ok_of_bind h
    cases h
    exact .deleteByCid hp
  | search query filters =>
    obtain ⟨criteria, hc, h⟩ := ok_of_bind h
    have hc : Search.criteria query filters = .ok criteria := ok_of_mapError hc
    cases h
    by_cases he : criteria.isEmpty = true
    · rw [if_pos he]
      rw [List.isEmpty_iff.mp he] at hc
      exact .searchAll hc
    · rw [if_neg he]
      exact .search hc fun hn => he (List.isEmpty_iff.mpr hn)

theorem plan_of_planned {op : Operation} (h : Planned r op p) : op.plan r = .ok p := by
  cases h with
  | fetch h | deleteByCid h => simp only [plan, h, ok_bind]; rfl
  | fetchAll => rfl
  | create h => simp only [plan, Resource.require, h, ok_bind]; rfl
  | update hp h => simp only [plan, Resource.require, hp, h, ok_bind]; rfl
  | delete h => simp only [plan, Resource.require, h, ok_bind]; rfl
  | searchAll h => simp only [plan, h, mapError_ok, ok_bind]; rfl
  | search h hc =>
    have hne : ¬ List.isEmpty _ = true := fun he => hc (List.isEmpty_iff.mp he)
    simp only [plan, h, mapError_ok, ok_bind, if_neg hne]
    rfl

theorem name_ne_of_planned {op : Operation} (h : Planned r op p) : p.operation ≠ "" := by
  cases h <;> simp [Plan.all, Plan.deletion]

theorem map_ofExcept {α β : Type} (f : α → β) (x : Except Failure α) :
    f <$> (Activity.ofExcept x : Activity σ α) = .ofExcept (f <$> x) := by
  cases x <;> rfl

theorem map_parseOne (body : List UInt8) :
    Answer.record <$> r.parseOne body =
      (Answer.record <$> Record.ofBody r.model body).mapError (r.parseFault r.name) := by
  unfold Resource.parseOne
  cases Record.ofBody r.model body <;> rfl

theorem map_parseMany (body : List UInt8) :
    Answer.records <$> r.parseMany body =
      (Answer.records <$> Record.allOfBody r.model body).mapError (r.parseFault r.plural) := by
  unfold Resource.parseMany
  cases Record.allOfBody r.model body <;> rfl

theorem fetchAll_eq : Answer.records <$> (r.fetchAll c : Activity σ _) = (Plan.all r).run r c := by
  simp only [Resource.fetchAll, Plan.run, Plan.all, Plan.opening, Plan.closing, Plan.answer,
    Expected.read, Expected.subject, ← map_parseMany, ← map_ofExcept, map_bind, pure_bind]
  rfl

theorem deletion_eq (path : String) :
    ((fun _ => Answer.done) <$> (do
      let _ ← r.guarded ("deleting " ++ r.name) "delete" (c.delete path)
      .note Resource.journal .info (Resource.place "delete_by_cid" ++ "deleted " ++ path)) :
      Activity σ Answer) = (Plan.deletion r path).run r c := by
  simp only [Plan.run, Plan.deletion, Plan.opening, Plan.closing, Plan.answer, Expected.read,
    map_bind, pure_bind]
  rfl

/-- A call makes the request that its arguments ask for, or none. -/
theorem perform_eq (op : Operation) :
    (op.call.perform r c : Activity σ _) = .ofExcept (op.plan r) >>= (·.run r c) := by
  cases op with
  | fetch cid =>
    simp only [call, Call.perform, plan, Resource.fetch]
    cases r.normalize cid with
    | error f => rfl
    | ok path =>
      simp only [Activity.ofExcept_ok_bind, map_bind, map_ofExcept, map_parseOne]
      rfl
  | fetchAll => exact fetchAll_eq
  | create record =>
    simp only [call, Call.perform, plan, Resource.create]
    cases record with
    | none => rfl
    | some record =>
      simp only [Resource.require, Activity.ofExcept_ok_bind, ok_bind]
      cases Resource.bodyOf record with
      | error f => rfl
      | ok content =>
        simp only [Activity.ofExcept_ok_bind, map_bind, map_ofExcept, map_parseOne]
        rfl
  | update record =>
    simp only [call, Call.perform, plan, Resource.update]
    cases record with
    | none => rfl
    | some record =>
      simp only [Resource.require, Activity.ofExcept_ok_bind, ok_bind]
      cases r.checkFull (record.get .cid) with
      | error f => rfl
      | ok path =>
        simp only [Activity.ofExcept_ok_bind, ok_bind]
        cases Resource.bodyOf record with
        | error f => rfl
        | ok content =>
          simp only [Activity.ofExcept_ok_bind, map_bind, map_ofExcept, map_parseOne]
          rfl
  | delete record =>
    simp only [call, Call.perform, plan, Resource.delete, Resource.deleteByCid]
    cases record with
    | none => rfl
    | some record =>
      simp only [Resource.require, Activity.ofExcept_ok_bind, ok_bind]
      cases r.normalize (record.get .cid) with
      | error f => rfl
      | ok path => exact deletion_eq path
  | deleteByCid cid =>
    simp only [call, Call.perform, plan, Resource.deleteByCid]
    cases r.normalize cid with
    | error f => rfl
    | ok path => exact deletion_eq path
  | search query filters =>
    simp only [call, Call.perform, plan, Resource.search]
    cases (Search.criteria query filters).mapError Failure.misuse with
    | error f => rfl
    | ok criteria =>
      simp only [Activity.ofExcept_ok_bind, ok_bind]
      by_cases h : criteria.isEmpty = true
      · simp only [h, if_true]
        exact fetchAll_eq
      · simp only [h, Bool.false_eq_true, if_false, map_bind, map_ofExcept, map_parseMany]
        rfl

theorem perform_of_plan {op : Operation} {w : World σ} {s : σ} (h : op.plan r = .ok p) :
    op.call.perform r c w s = p.run r c w s := by
  rw [perform_eq, h, Activity.ofExcept_ok_bind]

end Operation
end Outlier

import Mathlib.Data.List.Forall2
import Outlier.Proofs.Cid
import Outlier.Proofs.Exchange.Url
import Outlier.Proofs.Resource.Failures

/-! Which requests operations on outlier reports make. None that deletes or overwrites goes to the
collection as a whole. -/
namespace Outlier

variable {σ : Type} {r : Resource} {c : Client} {p : Plan} {w : World σ} {S : σ → Prop}
  {P : Event → Prop}

/-! What a plan leaves behind: its one request, waits and rows. -/

namespace Resource
variable {α : Type} {x : Activity σ α} {context operation : String} {f : Fault}
  {cause : Option Failure} {s : σ}

theorem leaves_requestFault (hl : ∀ row, P (.logged row)) :
    (r.requestFault context operation f cause : Activity σ α).Leaves w S P := by
  unfold requestFault
  dsimp only
  split
  · exact Activity.leaves_bind (Activity.leaves_fail _) fun _ => Activity.leaves_bind
      (Activity.leaves_noteWith hl) fun _ => Activity.leaves_fail _
  · exact Activity.leaves_bind (Activity.leaves_noteWith hl) fun _ => Activity.leaves_fail _

theorem leaves_guarded (hl : ∀ row, P (.logged row)) (hx : x.Leaves w S P) :
    (r.guarded context operation x).Leaves w S P := by
  unfold guarded
  refine Activity.leaves_bind (Activity.leaves_attempt hx) fun a => ?_
  split
  · exact Activity.leaves_pure _
  · split
    · exact leaves_requestFault hl
    · exact Activity.leaves_fail _
  · exact Activity.leaves_fail _

end Resource

namespace Plan

theorem leaves_trace (hl : ∀ row, P (.logged row)) (operation what : String) (body : List UInt8) :
    (Resource.trace c operation what body : Activity σ Unit).Leaves w S P := by
  unfold Resource.trace
  split
  · exact Activity.leaves_note (hl _)
  · exact Activity.leaves_pure ()

theorem leaves_opening (hl : ∀ row, P (.logged row)) :
    (p.opening c : Activity σ Unit).Leaves w S P := by
  unfold opening
  split
  · exact leaves_trace hl _ _ _
  · exact Activity.leaves_pure ()

theorem leaves_closing (hl : ∀ row, P (.logged row)) {body : List UInt8} :
    (p.closing c body : Activity σ Unit).Leaves w S P := by
  unfold closing
  split
  · exact leaves_trace hl _ _ _
  · exact Activity.leaves_note (hl _)
  · exact Activity.leaves_pure ()

theorem leaves_run (hS : w.Keeps S)
    (hs : ∀ q, c.request p.verb p.path p.content = .ok q → P (.sent q))
    (hp : ∀ x, P (.slept x)) (hl : ∀ row, P (.logged row)) :
    (p.run r c : Activity σ Answer).Leaves w S P := by
  have hx : (c.exchange p.verb p.path p.content : Activity σ _).Leaves w S P :=
    Client.leaves_exchange ⟨hS, hs, hp, fun _ _ => hl _⟩
  refine Activity.leaves_bind (leaves_opening hl) fun _ => ?_
  refine Activity.leaves_bind (Resource.leaves_guarded hl hx) fun body => ?_
  exact Activity.leaves_bind (leaves_closing hl) fun _ => Activity.leaves_ofExcept _

end Plan

/-! The requests of an operation are those of its exchange: all else that it leaves behind is
rows. -/

def IsSilent (e : Event) : Prop := e.request? = none

theorem requests_of_leaves {α : Type} {x : Activity σ α} {s : σ}
    (h : x.Leaves w (fun _ => True) IsSilent) :
    (x w s).events.filterMap Event.request? = [] :=
  List.filterMap_eq_nil_iff.mpr (h s trivial).1

theorem requests_bind {α β : Type} {x : Activity σ α} {f : α → Activity σ β} {s : σ}
    (h : ∀ a, (f a).Leaves w (fun _ => True) IsSilent) :
    ((x >>= f) w s).events.filterMap Event.request? =
      (x w s).events.filterMap Event.request? := by
  rcases hx : x w s with ⟨es, t, res⟩
  cases res with
  | error e => rw [Activity.bind_of_error hx]
  | ok a =>
    rw [Activity.bind_of_ok hx, Outcome.events_after, List.filterMap_append,
      requests_of_leaves (h a), List.append_nil]

theorem Resource.requests_guarded {α : Type} {x : Activity σ α} {context operation : String}
    {s : σ} :
    (r.guarded context operation x w s).events.filterMap Event.request? =
      (x w s).events.filterMap Event.request? := by
  refine requests_bind (x := x.attempt) fun a => ?_
  split
  · exact Activity.leaves_pure _
  · split
    · exact leaves_requestFault fun _ => rfl
    · exact Activity.leaves_fail _
  · exact Activity.leaves_fail _

theorem Plan.requests_run {s : σ} :
    (p.run r c w s).events.filterMap Event.request? =
      (c.exchange p.verb p.path p.content w s).events.filterMap Event.request? := by
  have hopening : (p.opening c : Activity σ Unit).Leaves w (fun _ => True) IsSilent :=
    p.leaves_opening fun _ => rfl
  rw [run, Activity.bind_of_ok opening_apply, Outcome.events_after, List.filterMap_append]
  have hsilent := requests_of_leaves hopening (s := s)
  rw [opening_apply] at hsilent
  rw [hsilent, List.nil_append, requests_bind, Resource.requests_guarded]
  intro body
  exact Activity.leaves_bind (leaves_closing fun _ => rfl) fun _ => Activity.leaves_ofExcept _

/-- The requests of an operation are those of the exchange it plans. -/
theorem Operation.requests_of_plan {op : Operation} {s : σ} (h : op.plan r = .ok p) :
    (op.call.perform r c w s).events.filterMap Event.request? =
      (c.exchange p.verb p.path p.content w s).events.filterMap Event.request? := by
  rw [perform_of_plan h, Plan.requests_run]

/-! Paths. -/

namespace Resource

/-- The path of the report with a number. -/
def item (ds : List Char) : String := "/outlier_report/" ++ String.ofList ds

theorem item_eq (ds : List Char) :
    item ds = String.ofList (('/' :: "outlier_report".toList ++ ['/']) ++ ds) := by
  have hfront : String.ofList ('/' :: "outlier_report".toList ++ ['/']) = "/outlier_report/" := rfl
  rw [String.ofList_append, hfront]
  rfl

theorem length_item (ds : List Char) : (item ds).length = 16 + ds.length := by
  have hfront : "/outlier_report/".length = 16 := rfl
  have hds : (String.ofList ds).length = ds.length := String.length_ofList
  exact (String.length_append _ _).trans (congrArg₂ (· + ·) hfront hds)

theorem item_ne_collection (ds : List Char) : item ds ≠ outlierReport.collection := by
  intro h
  have hl : outlierReport.collection.length = 15 := rfl
  have hi := length_item ds
  rw [h] at hi
  omega

/-- The path of a report is plain and has no dots. -/
theorem isPlain_item {ds : List Char} (h : ∀ c ∈ ds, c.isDigit = true) :
    ∃ rest, (item ds).toList = '/' :: rest ∧ Url.IsPlain rest none ∧ '.' ∉ rest := by
  have hfront : ∀ c ∈ "outlier_report/".toList, Url.isPlain c = true := List.all_eq_true.mp rfl
  have hdot : '.' ∉ "outlier_report/".toList := by decide
  refine ⟨"outlier_report/".toList ++ ds, ?_, ⟨nofun, fun c hc => ?_, nofun⟩, fun hc => ?_⟩
  · rw [item_eq, String.toList_ofList]
    rfl
  · rcases List.mem_append.mp hc with hc | hc
    · exact hfront c hc
    · exact (Url.isPlain_of_isDigit (h c hc)).1
  · rcases List.mem_append.mp hc with hc | hc
    · exact hdot hc
    · exact (Url.isPlain_of_isDigit (h _ hc)).2 rfl

theorem isPlain_collection : ∃ rest, outlierReport.collection.toList = '/' :: rest ∧
    Url.IsPlain rest none ∧ '.' ∉ rest := by
  have hall : ∀ c ∈ "outlier_report".toList, Url.isPlain c = true := List.all_eq_true.mp rfl
  exact ⟨"outlier_report".toList, rfl, ⟨nofun, hall, nofun⟩, by decide⟩

theorem accept_eq {cid path : String} (h : outlierReport.accept cid = .ok path) :
    path = cid ∧ ∃ ds, cid = item ds ∧ Cid.IsRun Char.isDigit ds := by
  unfold accept at h
  split at h
  · rename_i ha
    cases h
    obtain ⟨ds, hs, hd⟩ := Cid.matches_collectionOf.mp (Cid.accepts_iff.mp ha)
    exact ⟨rfl, ds, by rw [item_eq, ← hs, String.ofList_toList], hd⟩
  · cases h

theorem normalize_eq {cid : Value} {path : String} (h : outlierReport.normalize cid = .ok path) :
    ∃ ds, path = item ds ∧ Cid.IsRun Char.isDigit ds := by
  unfold normalize at h
  split at h
  · split at h
    · obtain ⟨rfl, ds, hp, hd⟩ := accept_eq h
      exact ⟨ds, hp, hd⟩
    · cases h
    · cases h
  · cases h

/-- A full identifier is a path as it is. -/
theorem checkFull_eq {cid : Value} {path : String} (h : outlierReport.checkFull cid = .ok path) :
    cid = .text path ∧ ∃ ds, path = item ds ∧ Cid.IsRun Char.isDigit ds := by
  unfold checkFull at h
  split at h
  · split at h
    · obtain ⟨rfl, hp⟩ := accept_eq h
      exact ⟨rfl, hp⟩
    · cases h
    · cases h
  · obtain ⟨rfl, ds, hp, -⟩ := accept_eq h
    have hi := length_item ds
    rw [← hp, String.length_empty] at hi
    omega

end Resource

/-! Bodies and criteria. -/

/-- The payload of a record that has its full identifier names it. -/
theorem Record.lookup_cid {record : Record} {payload : Pairs Value} {path : String}
    (hp : path ≠ "") (hc : record.get .cid = .text path) (h : record.payload = .ok payload) :
    payload.lookup "_cid" = some (.text path) := by
  obtain ⟨rest, hfields⟩ : ∃ rest, record.model.fields = .cid :: rest := by
    cases record.model <;> exact ⟨_, rfl⟩
  have hfirst : payloadValue Field.cid.shape (record.get .cid) = .ok (.text path) := by
    rw [hc]
    rfl
  have hgiven : isEmpty (.text path) = false := by simpa [isEmpty] using hp
  unfold Record.payload at h
  rw [hfields, List.mapM_cons, hfirst] at h
  cases hr : rest.mapM fun f => do return (f.key, ← payloadValue f.shape (record.get f)) with
  | error m =>
    rw [hr] at h
    cases h
  | ok others =>
    rw [hr] at h
    cases h
    simp [hgiven, Field.key]

theorem Search.encode_ne {criteria : List (String × Value)} (h : criteria ≠ []) :
    Search.encode criteria ≠ "" := by
  intro he
  have hchars : Search.encodeChars criteria = [] := by
    rw [← String.toList_ofList (l := Search.encodeChars criteria), ← Search.encode, he]
    rfl
  have hlen : (Search.sorted criteria).length = criteria.length := List.length_mergeSort _
  cases hs : Search.sorted criteria with
  | nil =>
    rw [hs] at hlen
    exact h (List.length_eq_zero_iff.mp hlen.symm)
  | cons p ps =>
    rw [Search.encodeChars, hs, List.map_cons] at hchars
    cases hm : ps.map Search.encodePair with
    | nil => simp [hm, List.intercalate, Search.encodePair] at hchars
    | cons u us => simp [hm, List.intercalate, Search.encodePair] at hchars

/-! Operations. -/

/-- The requests that an operation may make: of one report by its number, or of the collection. -/
inductive Dispatches : Operation → Verb → String → Option (List UInt8) → Prop
  | fetch {cid : Value} {ds : List Char} (hd : Cid.IsRun Char.isDigit ds)
    (h : Resource.outlierReport.normalize cid = .ok (Resource.item ds)) :
    Dispatches (.fetch cid) .get (Resource.item ds) none
  | fetchAll : Dispatches .fetchAll .get "/outlier_report" none
  | create {record : Record} {payload : Pairs Value} (h : record.payload = .ok payload) :
    Dispatches (.create (some record)) .post "/outlier_report"
      (some (Utf8.encode (Json.text (.object payload))))
  | update {record : Record} {ds : List Char} {payload : Pairs Value}
    (hd : Cid.IsRun Char.isDigit ds) (h : record.payload = .ok payload)
    (hc : payload.lookup "_cid" = some (.text (Resource.item ds))) :
    Dispatches (.update (some record)) .put (Resource.item ds)
      (some (Utf8.encode (Json.text (.object payload))))
  | delete {record : Record} {ds : List Char} (hd : Cid.IsRun Char.isDigit ds)
    (h : Resource.outlierReport.normalize (record.get .cid) = .ok (Resource.item ds)) :
    Dispatches (.delete (some record)) .delete (Resource.item ds) none
  | deleteByCid {cid : Value} {ds : List Char} (hd : Cid.IsRun Char.isDigit ds)
    (h : Resource.outlierReport.normalize cid = .ok (Resource.item ds)) :
    Dispatches (.deleteByCid cid) .delete (Resource.item ds) none
  | searchAll {query : Option String} {filters : Pairs Value} :
    Dispatches (.search query filters) .get "/outlier_report" none
  | search {query : Option String} {filters : Pairs Value} {criteria : List (String × Value)}
    (hc : Search.criteria query filters = .ok criteria) (hq : Search.encode criteria ≠ "") :
    Dispatches (.search query filters) .get ("/outlier_report" ++ "?" ++ Search.encode criteria)
      none

theorem Dispatches.path_ne {op : Operation} {verb : Verb} {path : String}
    {body : Option (List UInt8)} (h : Dispatches op verb path body)
    (hv : verb = .delete ∨ verb = .put) : path ≠ Resource.outlierReport.collection := by
  cases h with
  | update => exact Resource.item_ne_collection _
  | delete => exact Resource.item_ne_collection _
  | deleteByCid => exact Resource.item_ne_collection _
  | _ => rcases hv with hv | hv <;> cases hv

theorem payload_of_body {record : Record} {content : List UInt8}
    (h : Resource.bodyOf record = .ok content) :
    ∃ payload, record.payload = .ok payload ∧
      content = Utf8.encode (Json.text (.object payload)) := by
  unfold Resource.bodyOf Record.body Record.json at h
  cases hp : record.payload with
  | error m => rw [hp] at h; cases h
  | ok payload =>
    rw [hp] at h
    cases h
    exact ⟨payload, rfl, rfl⟩

/-- The request of a plan is one that its operation may make. -/
theorem dispatches_of_planned {op : Operation} (h : Planned .outlierReport op p) :
    Dispatches op p.verb p.path p.content := by
  cases h with
  | fetch h =>
    obtain ⟨ds, rfl, hd⟩ := Resource.normalize_eq h
    exact .fetch hd h
  | fetchAll => exact .fetchAll
  | create h =>
    obtain ⟨payload, hp, rfl⟩ := payload_of_body h
    exact .create hp
  | update hc h =>
    obtain ⟨payload, hp, rfl⟩ := payload_of_body h
    obtain ⟨hcid, ds, rfl, hd⟩ := Resource.checkFull_eq hc
    have hne : Resource.item ds ≠ "" := by
      intro he
      have hi := Resource.length_item ds
      rw [he, String.length_empty] at hi
      omega
    exact .update hd hp (Record.lookup_cid hne hcid hp)
  | delete h =>
    obtain ⟨ds, rfl, hd⟩ := Resource.normalize_eq h
    exact .delete hd h
  | deleteByCid h =>
    obtain ⟨ds, rfl, hd⟩ := Resource.normalize_eq h
    exact .deleteByCid hd h
  | searchAll h => exact .searchAll
  | search h hc => exact .search h (Search.encode_ne hc)

namespace Operation

theorem after_call (op : Operation) : op.call.after c = c := by
  cases op <;> rfl

/-- A request that an operation may make of a client: for a path below its base address. -/
def Makes (op : Operation) (c : Client) (q : Request) : Prop :=
  ∃ path, Dispatches op q.verb path q.body ∧ c.base.join path = .ok q.url ∧
    (q.verb = .delete ∨ q.verb = .put → path ≠ Resource.outlierReport.collection)

theorem leaves_requests (hS : w.Keeps S) (op : Operation) :
    (op.call.perform .outlierReport c).Leaves w S fun e => ∀ q, e = .sent q → op.Makes c q := by
  rw [perform_eq]
  cases hp : op.plan .outlierReport with
  | error f => exact Activity.leaves_fail f
  | ok p =>
    have hd := dispatches_of_planned (planned_of_plan hp)
    refine Plan.leaves_run hS (fun q hq => ?_) (fun _ => nofun) fun _ => nofun
    rintro _ ⟨⟩
    obtain ⟨hv, hb, hu⟩ := Client.request_ok hq
    rw [← hv, ← hb] at hd
    exact ⟨_, hd, hu, hd.path_ne⟩

/-- In any sequence an operation makes no requests but its own. -/
theorem run_makes (ops : List Operation) (s : σ) :
    List.Forall₂ (fun op o => ∀ q, Event.sent q ∈ o.events → op.Makes c q) ops
      (Call.run .outlierReport w (ops.map call) c s) := by
  induction ops generalizing s with
  | nil => exact .nil
  | cons op ops ih =>
    rw [List.map_cons, Call.run, after_call]
    refine .cons (fun q hq => ?_) (ih _)
    exact (leaves_requests w.keeps_all op s trivial).1 _ hq q rfl

/-- An operation that refuses its arguments makes no request. -/
theorem silent_of_refusal {op : Operation} {s : σ} {f : Failure}
    (hw : ∀ q, (c.lastReply w q s).IsServed)
    (h : (op.call.perform .outlierReport c w s).result = .error f) (hf : f.IsRefusal)
    (q : Request) :
    Event.sent q ∉ (op.call.perform .outlierReport c w s).events := by
  rw [perform_eq] at h ⊢
  cases hp : op.plan .outlierReport with
  | error g => exact fun hq => nomatch hq
  | ok p =>
    rw [hp] at h
    exact absurd hf (Plan.run_error hw h)

theorem run_silent (hw : w.IsServed S) (ops : List Operation) {s : σ} (hs : S s) :
    ∀ o ∈ Call.run .outlierReport w (ops.map call) c s, ∀ f, o.result = .error f →
      f.IsRefusal → ∀ q, Event.sent q ∉ o.events := by
  induction ops generalizing s with
  | nil => exact fun o ho => nomatch ho
  | cons op ops ih =>
    rw [List.map_cons, Call.run, after_call]
    intro o ho f hr hf q
    rcases List.mem_cons.mp ho with rfl | ho
    · exact silent_of_refusal (c.isServed_lastReply hw hs) hr hf q
    · exact ih (leaves_requests hw.toKeeps op s hs).2 o ho f hr hf q

/-- In any sequence of operations each one makes only requests of its own, none of which deletes or
overwrites the collection. With a server behind them one that refuses its arguments makes none. -/
theorem requests_safe (ops : List Operation) (c : Client) (w : World σ) (s : σ) :
    let outcomes := Call.run .outlierReport w (ops.map call) c s
    List.Forall₂ (fun op o => ∀ q, Event.sent q ∈ o.events → op.Makes c q) ops outcomes ∧
      ∀ S, w.IsServed S → S s → ∀ o ∈ outcomes, ∀ f, o.result = .error f → f.IsRefusal →
        ∀ q, Event.sent q ∉ o.events :=
  ⟨run_makes ops s, fun _ hw hs => run_silent hw ops hs⟩

end Operation

/-- A refused deletion makes no request, whatever comes after it. -/
theorem Operation.requests_safe_scripted :
    let script : Script := [.response ⟨200, [], []⟩, .raised (.trouble .connect "refused")]
    let calls := [Operation.deleteByCid (.text "1\n"), .fetchAll].map call
    let outcomes := Call.run .outlierReport (Script.world 0 0) calls Client.sample script
    ∀ o ∈ outcomes, ∀ f, o.result = .error f → f.IsRefusal → ∀ q, Event.sent q ∉ o.events := by
  intro script calls outcomes
  have hscript : ∀ reply ∈ script, reply.IsServed := by
    simp [script, Reply.IsServed]
  exact (requests_safe _ Client.sample (Script.world 0 0) script).2 _
    (Script.isServed_world 0 0 _) hscript

end Outlier

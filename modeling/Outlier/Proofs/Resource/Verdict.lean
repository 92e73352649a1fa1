import Outlier.Proofs.Exchange.Failures
import Outlier.Proofs.Exchange.Leaves
import Outlier.Proofs.Resource.Plan

/-! Verdicts of operations. What the last attempt brought is read or made into a fault, unless it is
a failure that the client does not know. -/
namespace Outlier

/-- A row of a logger at a level. -/
def Event.rowOf? (logger level : String) : Event → Option Row
  | .logged r => if r.logger = logger ∧ r.level = level then some r else none
  | _ => none

namespace Fault

/-- The details that a fault of an exchange may have. -/
def IsOfExchange (f : Fault) : Prop := ∀ n ∈ f.details.names, n ∈ ["status_code", "method", "path"]

theorem names_route (method path : Value) :
    ∀ n ∈ (Subject.route method path).names, n ∈ ["status_code", "method", "path"] := by
  intro n h
  unfold Subject.route Subject.detail at h
  split at h <;> split at h <;> simp_all [Pairs.names]

theorem isOfExchange_response (status : Int) (body method path : String) :
    (response status body method path).IsOfExchange := by
  refine Pairs.names_putAll (by simp [Pairs.names]) fun n h => ?_
  rcases List.mem_cons.mp h with rfl | h
  · exact List.mem_cons_self
  · exact names_route _ _ n h

theorem isOfExchange_transport (verb : Verb) (path message : String) :
    (Client.transportFault verb path message).IsOfExchange :=
  Pairs.names_putAll (by simp [Pairs.names]) (names_route _ _)

theorem IsOfExchange.not_mem {f : Fault} (h : f.IsOfExchange) {name : String}
    (hn : name ∉ ["status_code", "method", "path"]) : name ∉ f.details.names :=
  fun hm => hn (h name hm)

end Fault

namespace Resource
variable {σ α : Type} {r : Resource} {context operation : String} {f : Fault}
  {cause : Option Failure} {w : World σ} {s t : σ} {x : Activity σ α} {es : List Event}

/-- The message of an operation whose request failed with a fault of the client. -/
def requestMessage (context : String) (f : Fault) : String := context ++ ": " ++ f.message.plain

def requestFailure (r : Resource) (context operation : String) (f : Fault)
    (cause : Option Failure) : Failure :=
  .fault ⟨.request (.text r.name) (.text operation), .text (requestMessage context f),
    f.details ++ [("resource", .text r.name), ("operation", .text operation)]⟩
    (some (.fault f cause))

def requestRow (r : Resource) (context operation : String) (f : Fault) : Row :=
  ⟨journal, "ERROR", place operation ++ requestMessage context f,
    Row.sorted ((("resource", .text r.name) :: f.details).map fun p =>
      (p.1, Excerpt.ofValue Excerpt.standard p.2))⟩

def requestEvents (r : Resource) (w : World σ) (context operation : String) (f : Fault) :
    List Event :=
  if Row.enabled w.threshold Severity.error.level then
    [.logged (r.requestRow context operation f)]
  else []

/-- Names that details may have in a row along with the resource. -/
structure IsFree (threshold : Int) (name : String) : Prop where
  resource : name ≠ "resource"
  argument : name ∉ Row.arguments
  reserved : Row.enabled threshold Severity.error.level = true → name ∉ Row.reserved

theorem find?_eq_none_of_names {ps : Pairs Value} {taken : List String}
    (h : ∀ n ∈ ps.names, n ∉ taken) : ps.find? (taken.contains ·.1) = none := by
  rw [List.find?_eq_none]
  intro p hp
  simpa using h p.1 (List.mem_map_of_mem hp)

theorem withContext_of_isFree {threshold : Int} {details : Pairs Value}
    (h : ∀ n ∈ details.names, IsFree threshold n) (name message : String) :
    Row.withContext threshold journal (.int Severity.error.level) message
        (("resource", .text name) :: details) =
      .ok (if Row.enabled threshold Severity.error.level then
        some ⟨journal, "ERROR", message, Row.sorted ((("resource", .text name) :: details).map
          fun p => (p.1, Excerpt.ofValue Excerpt.standard p.2))⟩
      else none) := by
  have hnames {taken : List String} (hr : "resource" ∉ taken)
      (ht : ∀ n ∈ details.names, n ∉ taken) :
      ∀ n ∈ Pairs.names (("resource", Value.text name) :: details), n ∉ taken := by
    intro n hn
    rcases List.mem_cons.mp hn with rfl | hn
    · exact hr
    · exact ht n hn
  unfold Row.withContext
  rw [find?_eq_none_of_names (hnames (by decide) fun n hn => (h n hn).argument)]
  by_cases he : Row.enabled threshold Severity.error.level = true
  · have hreserved := find?_eq_none_of_names
      (hnames (by decide) fun n hn => (h n hn).reserved he)
    simp only [Level.ofValue?, Level.toInt, he, if_true, hreserved]
    rfl
  · simp only [Level.ofValue?, Level.toInt, he]
    rfl

theorem putAll_task (operation : String) (hr : r.name ≠ "") (ho : operation ≠ "")
    {details : Pairs Value} (hres : "resource" ∉ details.names)
    (hop : "operation" ∉ details.names) :
    Pairs.putAll details (Subject.task (.text r.name) (.text operation)) =
      details ++ [("resource", .text r.name), ("operation", .text operation)] := by
  have htask : Subject.task (.text r.name) (.text operation) =
      [("resource", .text r.name), ("operation", .text operation)] := by
    simp [Subject.task, Subject.detail, Value.isGiven, hr, ho]
  have hop' : "operation" ∉ Pairs.names (details ++ [("resource", Value.text r.name)]) := by
    rw [Pairs.names, List.map_append, List.mem_append, not_or]
    exact ⟨hop, by simp⟩
  rw [htask, Pairs.putAll, List.foldl_cons, List.foldl_cons, List.foldl_nil,
    Pairs.put_of_not_mem hres, Pairs.put_of_not_mem hop', List.append_assoc]
  rfl

theorem parseFault_eq (hr : r.name ≠ "") (subject : String) (rejection : Rejection) :
    r.parseFault subject rejection =
      .fault ⟨.parse (.text r.name) (.text "parse"),
        .text ("parsing " ++ subject ++ ": " ++ rejection.heading),
        [("resource", .text r.name), ("operation", .text "parse")]⟩
        (some (.rejected rejection)) := by
  have hnone (name : String) : name ∉ Pairs.names ([] : Pairs Value) := List.not_mem_nil
  have htask := putAll_task "parse" hr (by decide) (hnone _) (hnone _)
  simp only [parseFault, Fault.make, Subject.context, htask, List.nil_append]

/-- A fault of the client whose details have free names is noted, and becomes one of the operation
with the resource and the operation among its details. -/
theorem requestFault_of_isFree (h : ∀ n ∈ f.details.names, IsFree w.threshold n) :
    (r.requestFault context operation f cause : Activity σ α) w s =
      ⟨r.requestEvents w context operation f, s,
        .error (.fault (.make (.request (.text r.name) (.text operation))
          (.text (requestMessage context f)) f.details) (some (.fault f cause)))⟩ := by
  have hl : f.details.lookup "resource" = none :=
    Pairs.lookup_eq_none_of_not_mem fun hm => (h _ hm).resource rfl
  have hnote : Activity.noteWith journal .error (place operation ++ requestMessage context f)
      (("resource", .text r.name) :: f.details) w s =
        ⟨r.requestEvents w context operation f, s, .ok ()⟩ := by
    simp only [Activity.noteWith, withContext_of_isFree h, requestEvents, requestRow]
    cases Row.enabled w.threshold Severity.error.level <;> rfl
  simp only [requestFault, hl, Option.isSome_none, Bool.false_eq_true, if_false]
  rw [requestMessage] at hnote
  rw [Activity.bind_of_ok hnote]
  simp only [Outcome.after, Activity.fail_apply, List.append_nil]
  rfl

/-- The details of an exchange have free names. -/
theorem isFree_of_isOfExchange (hf : f.IsOfExchange) (threshold : Int) :
    ∀ n ∈ f.details.names, IsFree threshold n := by
  have hall : ∀ n ∈ ["status_code", "method", "path"],
      n ≠ "resource" ∧ n ∉ Row.arguments ∧ n ∉ Row.reserved := by decide
  intro n hn
  obtain ⟨hr, ha, hs⟩ := hall n (hf n hn)
  exact ⟨hr, ha, fun _ => hs⟩

theorem requestFault_apply (hr : r.name ≠ "") (ho : operation ≠ "") (hf : f.IsOfExchange) :
    (r.requestFault context operation f cause : Activity σ α) w s =
      ⟨r.requestEvents w context operation f, s,
        .error (r.requestFailure context operation f cause)⟩ := by
  have htask := putAll_task operation hr ho (hf.not_mem (by decide)) (hf.not_mem (by decide))
  rw [requestFault_of_isFree (isFree_of_isOfExchange hf w.threshold)]
  simp only [Fault.make, Subject.context, htask]
  rfl

theorem guarded_of_ok {a : α} (h : x w s = ⟨es, t, .ok a⟩) :
    r.guarded context operation x w s = ⟨es, t, .ok a⟩ := by
  rw [guarded, Activity.attempt_bind, h]
  simp [Outcome.after, Activity.pure_apply]

/-- A fault of the client is handed to what makes faults of the operation. -/
theorem guarded_fault (context operation : String) (hk : f.kind.lineage.contains .api = true)
    (h : x w s = ⟨es, t, .error (.fault f cause)⟩) :
    r.guarded context operation x w s =
      (r.requestFault context operation f cause w t).after es := by
  rw [guarded, Activity.attempt_bind, h]
  simp only [hk, if_true]

theorem guarded_of_fault (hr : r.name ≠ "") (ho : operation ≠ "") (hf : f.IsOfExchange)
    (hk : f.kind.lineage.contains .api = true) (h : x w s = ⟨es, t, .error (.fault f cause)⟩) :
    r.guarded context operation x w s =
      ⟨es ++ r.requestEvents w context operation f, t,
        .error (r.requestFailure context operation f cause)⟩ := by
  rw [guarded_fault context operation hk h, requestFault_apply hr ho hf]
  rfl

/-- Only faults become faults of the operation. -/
theorem guarded_of_other {e : Failure} (hf : ∀ f cause, e ≠ .fault f cause)
    (h : x w s = ⟨es, t, .error e⟩) :
    r.guarded context operation x w s = ⟨es, t, .error e⟩ := by
  rw [guarded, Activity.attempt_bind, h]
  cases e with
  | fault f cause => exact absurd rfl (hf f cause)
  | _ => simp [Outcome.after, Activity.fail_apply]

end Resource

namespace Plan
variable {σ : Type} (r : Resource) (p : Plan) (c : Client) (w : World σ)

def traceEvents (operation what : String) (body : List UInt8) : List Event :=
  if c.debug then
    w.noted Resource.journal .debug
      (Resource.place operation ++ what ++ " JSON: " ++ Excerpt.ofBody body)
  else []

def openingEvents : List Event :=
  match p.content with
  | some content => traceEvents c w p.operation "sending" content
  | none => []

def closingEvents (body : List UInt8) : List Event :=
  match p.expected with
  | .fetched => traceEvents c w p.operation "received" body
  | .nothing =>
    w.noted Resource.journal .info (Resource.place "delete_by_cid" ++ "deleted " ++ p.path)
  | _ => []

variable {r p c w} {s t : σ} {es : List Event} {body : List UInt8} {f : Fault}
  {cause : Option Failure}

theorem trace_apply (operation what : String) (body : List UInt8) :
    Resource.trace c operation what body w s =
      ⟨traceEvents c w operation what body, s, .ok ()⟩ := by
  unfold Resource.trace traceEvents
  split
  · exact Activity.note_apply ..
  · rfl

theorem opening_apply : p.opening c w s = ⟨p.openingEvents c w, s, .ok ()⟩ := by
  unfold opening openingEvents
  cases p.content with
  | none => rfl
  | some content => exact trace_apply ..

theorem closing_apply : p.closing c body w s = ⟨p.closingEvents c w body, s, .ok ()⟩ := by
  unfold closing closingEvents
  cases p.expected with
  | fetched => exact trace_apply ..
  | nothing => exact Activity.note_apply ..
  | _ => rfl

theorem run_of_ok (h : c.exchange p.verb p.path p.content w s = ⟨es, t, .ok body⟩) :
    p.run r c w s =
      ⟨p.openingEvents c w ++ (es ++ p.closingEvents c w body), t, p.answer r body⟩ := by
  rw [run, Activity.bind_of_ok opening_apply, Activity.bind_of_ok (Resource.guarded_of_ok h),
    Activity.bind_of_ok closing_apply]
  cases p.answer r body <;> simp [Outcome.after, Activity.ofExcept, Activity.done, Activity.fail]

theorem run_of_guarded_error {e : Failure}
    (h : r.guarded p.context p.operation (c.exchange p.verb p.path p.content) w s =
      ⟨es, t, .error e⟩) :
    p.run r c w s = ⟨p.openingEvents c w ++ es, t, .error e⟩ := by
  rw [run, Activity.bind_of_ok opening_apply, Activity.bind_of_error h]
  rfl

theorem run_of_fault (hr : r.name ≠ "") (ho : p.operation ≠ "") (hf : f.IsOfExchange)
    (hk : f.kind.lineage.contains .api = true)
    (h : c.exchange p.verb p.path p.content w s = ⟨es, t, .error (.fault f cause)⟩) :
    p.run r c w s =
      ⟨p.openingEvents c w ++ (es ++ r.requestEvents w p.context p.operation f), t,
        .error (r.requestFailure p.context p.operation f cause)⟩ :=
  run_of_guarded_error (Resource.guarded_of_fault hr ho hf hk h)

/-! Rows of the resource at the level of errors come from failed requests alone. -/

theorem rowsOf_noted {logger other level message : String} {severity : Severity}
    (h : logger ≠ other ∨ severity.name ≠ level) :
    (w.noted logger severity message).filterMap (Event.rowOf? other level) = [] := by
  unfold World.noted
  split
  · simp only [List.filterMap_cons, Event.rowOf?, Row.plain]
    rw [if_neg fun hb => h.elim (absurd hb.1) (absurd hb.2)]
    rfl
  · rfl

theorem rowsOf_traceEvents (operation what : String) (body : List UInt8) :
    (traceEvents c w operation what body).filterMap
      (Event.rowOf? Resource.journal "ERROR") = [] := by
  unfold traceEvents
  split
  · exact rowsOf_noted (.inr (by decide))
  · rfl

theorem rowsOf_openingEvents :
    (p.openingEvents c w).filterMap (Event.rowOf? Resource.journal "ERROR") = [] := by
  unfold openingEvents
  cases p.content with
  | none => rfl
  | some content => exact rowsOf_traceEvents ..

theorem rowsOf_closingEvents (body : List UInt8) :
    (p.closingEvents c w body).filterMap (Event.rowOf? Resource.journal "ERROR") = [] := by
  unfold closingEvents
  cases p.expected with
  | fetched => exact rowsOf_traceEvents ..
  | nothing => exact rowsOf_noted (.inr (by decide))
  | _ => rfl

theorem rowsOf_exchange {verb : Verb} {path : String} {content : Option (List UInt8)}
    {result : Except Failure (List UInt8)}
    (h : c.exchange verb path content w s = ⟨es, t, result⟩) (level : String) :
    es.filterMap (Event.rowOf? Resource.journal level) = [] := by
  have hj : Client.journal ≠ Resource.journal := by decide
  have hcovers : c.Covers verb path content w (fun _ => True)
      (Event.rowOf? Resource.journal level · = none) := by
    refine ⟨w.keeps_all, fun _ _ => rfl, fun _ => rfl, fun severity message => ?_⟩
    simp [Event.rowOf?, Row.plain, hj]
  have hleaves := (Client.leaves_exchange hcovers s trivial).1
  rw [h] at hleaves
  rw [List.filterMap_eq_nil_iff]
  exact hleaves

theorem rowsOf_requestEvents (context operation : String) (f : Fault) :
    (r.requestEvents w context operation f).filterMap (Event.rowOf? Resource.journal "ERROR") =
      if Row.enabled w.threshold Severity.error.level then [r.requestRow context operation f]
      else [] := by
  unfold Resource.requestEvents
  split
  · rfl
  · rfl

end Plan

/-- What an operation comes to and the fault of the client that it notes, from what its last attempt
took in. -/
inductive Verdict (r : Resource) (p : Plan) :
    Except Failure Response → Except Failure Answer → Option Fault → Prop
  | read {a : Response} {x : Answer} (hs : a.isSuccess = true)
    (hx : p.expected.read r.model a.body = .ok x) : Verdict r p (.ok a) (.ok x) none
  | unreadable {a : Response} {rejection : Rejection} (hs : a.isSuccess = true)
    (hx : p.expected.read r.model a.body = .error rejection) :
    Verdict r p (.ok a) (.error (.fault ⟨.parse (.text r.name) (.text "parse"),
      .text ("parsing " ++ p.expected.subject r ++ ": " ++ rejection.heading),
      [("resource", .text r.name), ("operation", .text "parse")]⟩
      (some (.rejected rejection)))) none
  | refused {a : Response} {text : String} {e : Fault} (hs : a.isSuccess = false)
    (ht : a.text = .ok text) (he : e = .response a.status text p.verb.name p.path) :
    Verdict r p (.ok a) (.error (r.requestFailure p.context p.operation e none)) (some e)
  | broken {t : Trouble} {m : String} {e : Fault} (ht : t.isTransport = true)
    (he : e = Client.transportFault p.verb p.path m) :
    Verdict r p (.error (.trouble t m))
      (.error (r.requestFailure p.context p.operation e (some (.trouble t m)))) (some e)
  | garbled {a : Response} {u : Unreadable} (hs : a.isSuccess = false) (hu : a.text = .error u) :
    Verdict r p (.ok a) (.error (.unreadable u)) none
  | escaped {f : Failure} (hf : Client.IsForeign f)
    (ht : ∀ t m, f = .trouble t m → t.isTransport = false) :
    Verdict r p (.error f) (.error f) none

namespace Plan
variable {σ : Type} {r : Resource} {p : Plan} {c : Client} {q : Request} {w : World σ} {s : σ}

/-- What a request brings is read. -/
theorem run_of_concluded_ok {body : List UInt8}
    (h : (c.exchange p.verb p.path p.content w s).result = .ok body) :
    (p.run r c w s).result = p.answer r body ∧
      (p.run r c w s).events.filterMap (Event.rowOf? Resource.journal "ERROR") = [] := by
  have he := Outcome.eq_of_result h
  rw [run_of_ok he]
  refine ⟨rfl, ?_⟩
  rw [List.filterMap_append, List.filterMap_append, rowsOf_openingEvents, rowsOf_exchange he,
    rowsOf_closingEvents]
  rfl

/-- A fault of the client in a request is noted once and becomes one of the operation. -/
theorem run_of_concluded_fault (hr : r.name ≠ "") (ho : p.operation ≠ "") {f : Fault}
    {cause : Option Failure} (hf : f.IsOfExchange) (hk : f.kind.lineage.contains .api = true)
    (h : (c.exchange p.verb p.path p.content w s).result = .error (.fault f cause)) :
    (p.run r c w s).result = .error (r.requestFailure p.context p.operation f cause) ∧
      (p.run r c w s).events.filterMap (Event.rowOf? Resource.journal "ERROR") =
        if Row.enabled w.threshold Severity.error.level then
          [r.requestRow p.context p.operation f]
        else [] := by
  have he := Outcome.eq_of_result h
  rw [run_of_fault hr ho hf hk he]
  refine ⟨rfl, ?_⟩
  rw [List.filterMap_append, List.filterMap_append, rowsOf_openingEvents, rowsOf_exchange he,
    rowsOf_requestEvents]
  rfl

/-- Whatever else goes wrong in a request is handed on, and not noted. -/
theorem run_of_foreign {e : Failure} (hf : Client.IsForeign e)
    (h : (c.exchange p.verb p.path p.content w s).result = .error e) :
    (p.run r c w s).result = .error e ∧
      (p.run r c w s).events.filterMap (Event.rowOf? Resource.journal "ERROR") = [] := by
  have he := Outcome.eq_of_result h
  rw [run_of_guarded_error (Resource.guarded_of_other hf he)]
  refine ⟨rfl, ?_⟩
  rw [List.filterMap_append, rowsOf_openingEvents, rowsOf_exchange he]
  rfl

theorem run_of_other {e : Failure} (hf : Client.IsForeign e)
    (h : (c.exchange p.verb p.path p.content w s).result = .error e) :
    (p.run r c w s).result = .error e :=
  (run_of_foreign hf h).1

/-- A plan that is carried out comes to what is made of what its last attempt took in. -/
theorem run_verdict (hr : r.name ≠ "") (ho : p.operation ≠ "") {x : Except Failure Response}
    {y : Except Failure (List UInt8)} (hd : Client.Decided p.verb p.path x y)
    (hf : Client.FailsForeign x) (hy : (c.exchange p.verb p.path p.content w s).result = y) :
    ∃ e, Verdict r p x (p.run r c w s).result e ∧
      (p.run r c w s).events.filterMap (Event.rowOf? Resource.journal "ERROR") =
        if Row.enabled w.threshold Severity.error.level then
          e.toList.map (r.requestRow p.context p.operation)
        else [] := by
  cases hd with
  | @body a hs =>
    obtain ⟨hrun, hrows⟩ := run_of_concluded_ok (r := r) hy
    refine ⟨none, ?_, by simp [hrows]⟩
    rw [hrun, answer]
    cases hx : p.expected.read r.model a.body with
    | ok answer => exact .read hs hx
    | error rejection =>
      rw [mapError_error, Resource.parseFault_eq hr]
      exact .unreadable hs hx
  | refusal hs ht =>
    obtain ⟨hrun, hrows⟩ := run_of_concluded_fault hr ho
      (Fault.isOfExchange_response _ _ _ _) (by rfl) hy
    refine ⟨some _, ?_, hrows⟩
    rw [hrun]
    exact .refused hs ht rfl
  | broken ht =>
    obtain ⟨hrun, hrows⟩ := run_of_concluded_fault hr ho
      (Fault.isOfExchange_transport _ _ _) (by rfl) hy
    refine ⟨some _, ?_, hrows⟩
    rw [hrun]
    exact .broken ht rfl
  | @unreadable a u hs hu =>
    obtain ⟨hrun, hrows⟩ := run_of_foreign (r := r) (Client.isForeign_unreadable u) hy
    refine ⟨none, ?_, by simp [hrows]⟩
    rw [hrun]
    exact .garbled hs hu
  | unordered hm =>
    -- Only a fault has a status that is no number, and none comes from a server.
    exact absurd (hf _ rfl) (Client.not_isForeign_of_unordered hm)
  | other hb ht =>
    obtain ⟨hrun, hrows⟩ := run_of_foreign (r := r) (hf _ rfl) hy
    refine ⟨none, ?_, by simp [hrows]⟩
    rw [hrun]
    exact .escaped (hf _ rfl) ht

end Plan

namespace Operation
variable {σ : Type}

theorem result_of_foreign {op : Operation} {p : Plan} {c : Client} {q : Request} {w : World σ}
    {s : σ} {f : Failure} (hp : op.plan .outlierReport = .ok p)
    (hq : c.request p.verb p.path p.content = .ok q) (hf : Client.IsForeign f)
    (hx : Client.concluded p.verb p.path (Client.taken q (c.lastReply w q s)) = .error f) :
    (op.call.perform .outlierReport c w s).result = .error f := by
  rw [perform_eq, hp, Activity.ofExcept_ok_bind]
  exact Plan.run_of_other hf ((Client.exchange_result hq).trans hx)

/-- An operation whose arguments pass the checks, with a server behind it, comes to what is made of
what its last attempt took in, and leaves one row of errors exactly if that is a fault around one of
the client. A bare response is taken in as it is, with its body read as UTF-8, unless where it leads
cannot be worked out. If the request cannot be made, what is wrong with it comes out as it is. -/
theorem outcome_classified {op : Operation} {p : Plan} (c : Client) (w : World σ) (s : σ)
    (hp : op.plan .outlierReport = .ok p) (hw : ∀ q, (c.lastReply w q s).IsServed) :
    let o := op.call.perform .outlierReport c w s
    let rows := o.events.filterMap (Event.rowOf? Resource.journal "ERROR")
    match c.request p.verb p.path p.content with
    | .error f => o.result = .error f ∧ rows = []
    | .ok q =>
      let x := Client.taken q (c.lastReply w q s)
      (∀ a, (c.lastReply w q s).answer? = some a → a.IsBare →
        x = (Client.checkLead q a).map (fun _ => a) ∧
          a.text = .ok (Utf8.decodeLossy a.body)) ∧
      ∃ e, Verdict .outlierReport p x o.result e ∧
        rows = if Row.enabled w.threshold Severity.error.level then
          e.toList.map (Resource.requestRow .outlierReport p.context p.operation)
        else [] := by
  have hname : Resource.outlierReport.name ≠ "" := by decide
  dsimp only
  rw [perform_of_plan hp]
  cases hq : c.request p.verb p.path p.content with
  | error f =>
    have hresult := congrArg Outcome.result (Client.exchange_refused hq (w := w) (s := s))
    exact Plan.run_of_foreign (Client.request_error hq).foreign hresult
  | ok q =>
    refine ⟨fun a ha hb => ⟨Client.taken_of_isBare ha hb, Response.text_of_isBare hb⟩, ?_⟩
    exact Plan.run_verdict hname (name_ne_of_planned (planned_of_plan hp))
      (Client.decided_concluded _) (Client.failsForeign_taken (hw q) q) (Client.exchange_result hq)

/-- A refused request with one retry left over. -/
theorem outcome_classified_refused :
    let p : Plan :=
      ⟨"fetch", "fetching outlier report", .get, "/outlier_report/1", none, .fetched⟩
    let a : Response := ⟨404, [], []⟩
    let o := (fetch (.text "1")).call.perform .outlierReport Client.sample (Script.world 0 0)
      [.response a]
    ∃ e, Verdict .outlierReport p (.ok a) o.result e ∧
      o.events.filterMap (Event.rowOf? Resource.journal "ERROR") =
        e.toList.map (Resource.requestRow .outlierReport p.context p.operation) := by
  intro p a
  have hp : (fetch (.text "1")).plan .outlierReport = .ok p := rfl
  have hserved : ∀ reply ∈ [Reply.response a], reply.IsServed := by simp [Reply.IsServed]
  have hw := Client.sample.isServed_lastReply (Script.isServed_world 0 0 Clock.patient) hserved
  have hq : Client.sample.request .get "/outlier_report/1" none =
      .ok (Client.sample.requestAt "/outlier_report/1") := rfl
  have h := outcome_classified Client.sample (Script.world 0 0) [.response a] hp hw
  dsimp only at h
  rw [show Client.sample.request p.verb p.path p.content = _ from hq] at h
  exact h.2

/-- A response of success is not read if the address of the client has no scheme, and one that
leads to a name with nothing encoded in it is handed on as a failure of the name. -/
theorem outcome_not_classified_by_status :
    let c := Client.schemeless
    let body := Utf8.encode "\x7b\x7d"
    let found := (fetch (.text "1")).call.perform .outlierReport c (Script.world 0 0)
      [.response ⟨200, [], body⟩]
    let moved := (fetch (.text "1")).call.perform .outlierReport Client.sample (Script.world 0 0)
      [.response ⟨302, [("Location", "http://xn--/")], []⟩]
    Client.create c.connection false = .ok c ∧ (Record.ofBody .outlierReport body).isOk = true ∧
      found.result = .error (.misuse (.unknownType "/v2/outlier_report/1")) ∧
      moved.result = .error (.hostname .nothingEncoded) := by
  intro c body found moved
  have hp : (fetch (.text "1")).plan .outlierReport =
      .ok ⟨"fetch", "fetching outlier report", .get, "/outlier_report/1", none, .fetched⟩ := rfl
  have hc : Client.create Client.schemeless.connection false = .ok Client.schemeless := rfl
  refine ⟨hc, rfl, ?_, ?_⟩
  · have hq : Client.schemeless.request .get "/outlier_report/1" none =
        .ok (Client.schemeless.requestAt "/v2/outlier_report/1") := rfl
    exact result_of_foreign hp hq (Client.isForeign_misuse _) rfl
  · have hq : Client.sample.request .get "/outlier_report/1" none =
        .ok (Client.sample.requestAt "/outlier_report/1") := rfl
    exact result_of_foreign hp hq (Client.isForeign_hostname _) rfl

end Operation
end Outlier

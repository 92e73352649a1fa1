import Outlier.Proofs.Lifecycle.Stored

/-! Refinement: calls on the server come to what the same calls on a catalogue come to. -/
namespace Outlier

/-- A call gives the result that the reaction shows as, and leaves a server behind that represents
the catalogue. -/
def Agrees (x : Reaction × Catalogue) (o : Outcome Server Answer) : Prop :=
  x.1.Shows o.result ∧ o.state.Represents x.2

theorem agrees_of {reaction : Reaction} {k : Catalogue} {o : Outcome Server Answer}
    {result : Except Failure Answer} {t : Server} (h : o.result = result ∧ o.state = t)
    (hs : reaction.Shows result) (ht : t.Represents k) : Agrees (reaction, k) o := by
  obtain ⟨rfl, rfl⟩ := h
  exact ⟨hs, ht⟩

/-- What a validated record is: valid, and with integers that both dialects have room for. -/
theorem Action.IsValid.record {a : Action} {r : Record} (h : a.IsValid) (hr : a.record? = some r) :
    r.model = .outlierReport ∧ r.IsValid ∧ r.Fits Json.strict ∧ r.Fits Json.lenient := by
  obtain ⟨hv, hdigits⟩ := h r hr
  obtain ⟨hm, hvalid⟩ := hv.isValid
  exact ⟨hm, hvalid, Record.fits_of_digits hdigits⟩

theorem Resource.bodyOf_of_isValid {r : Record} (h : r.IsValid) :
    bodyOf r = .ok (Utf8.encode (Json.text (.object r.given))) := by
  rw [bodyOf, Record.body_of_isValid h]
  rfl

theorem Fault.lookup_response (status : Int) (body method path : String) :
    (response status body method path).details.lookup "status_code" = some (.int status) := by
  have hk : (Subject.response (.int status) (.text body) (.text method)
      (.text path)).context.names.Nodup := by
    simp only [Subject.context, Subject.route, Subject.detail]
    split <;> split <;> simp [Pairs.names]
  exact (Pairs.lookup_putAll hk).trans rfl

/-! Plans whose first reply is plain and the last one. -/
namespace Plan
variable {σ : Type} {r : Resource} {p : Plan} {c : Client} {q : Request} {w : World σ} {s t : σ}
  {a : Response}

theorem run_of_success (hq : c.request p.verb p.path p.content = .ok q)
    (hu : q.url.hasType = true) (hr : w.respond s q = (.response a, t)) (ha : a.IsPlain)
    (hs : a.isSuccess = true) :
    (p.run r c w s).result = p.answer r a.body ∧ (p.run r c w s).state = t := by
  have htaken : Client.taken q (.response a) = .ok a := Client.taken_of_isPlain rfl hu ha
  have hpass : Client.mayPass (.ok a) = false := by
    have hlow : ¬ (a.status = 429 ∨ 500 ≤ a.status) := by
      simp only [Response.isSuccess, Bool.and_eq_true, decide_eq_true_eq] at hs
      omega
    simp [Client.mayPass, not_or.mp hlow]
  obtain ⟨es, hes⟩ := Client.exchange_of_reply hq hr (by rw [htaken, hpass])
  rw [htaken, Client.concluded_of_isSuccess hs] at hes
  rw [run_of_ok hes]
  exact ⟨rfl, rfl⟩

theorem run_of_refusal (hn : r.name ≠ "") (ho : p.operation ≠ "")
    (hq : c.request p.verb p.path p.content = .ok q) (hu : q.url.hasType = true)
    (hr : w.respond s q = (.response a, t)) (ha : a.IsPlain) (hs : a.isSuccess = false)
    (hp : Client.mayPass (.ok a) = false) :
    ∃ f cause, f.kind = .request ∧ f.details.lookup "status_code" = some (.int a.status) ∧
      (p.run r c w s).result = .error (.fault f cause) ∧ (p.run r c w s).state = t := by
  have htaken : Client.taken q (.response a) = .ok a := Client.taken_of_isPlain rfl hu ha
  obtain ⟨es, hes⟩ := Client.exchange_of_reply hq hr (by rw [htaken, hp])
  rw [htaken, Client.concluded_of_text hs (Response.text_of_isBare ha.toIsBare)] at hes
  rw [run_of_fault hn ho (Fault.isOfExchange_response _ _ _ _) rfl hes]
  refine ⟨_, _, rfl, ?_, rfl, rfl⟩
  rw [List.lookup_append, Fault.lookup_response]
  rfl

theorem run_of_refused {f : Failure} (h : c.request p.verb p.path p.content = .error f)
    (hf : Client.IsForeign f) :
    (p.run r c w s).result = .error f ∧ (p.run r c w s).state = s := by
  rw [run_of_guarded_error (Resource.guarded_of_other hf (Client.exchange_refused h))]
  exact ⟨rfl, rfl⟩

end Plan

namespace Server
variable {write : Nat → Value → List UInt8} {jitter : Float} {threshold : Int} {c : Client}
  {s t : Server} {k k' : Catalogue} {p : Plan} {x : Answer}

theorem agrees_of_success {a : Response} (hc : IsAttached c) (hp : IsPath p.path)
    (hroom : HasRoom p.path)
    (hr : respond write s (requestOf c p.verb p.path p.content) = (.response a, t))
    (ha : a.IsPlain) (hs : a.isSuccess = true) (hx : p.answer .outlierReport a.body = .ok x)
    (ht : t.Represents k') :
    Agrees (.answer x, k') (p.run .outlierReport c (world write jitter threshold) s) := by
  have hrun := Plan.run_of_success (r := .outlierReport) (w := world write jitter threshold)
    (request_of_hasRoom hc hp hroom) hasType_requestOf hr ha hs
  rw [hx] at hrun
  exact agrees_of hrun .answer ht

/-- An answer with a value is read from what is written of it. -/
theorem agrees_of_answer {v : Value} (hc : IsAttached c) (hp : IsPath p.path)
    (hroom : HasRoom p.path)
    (hr : respond write s (requestOf c p.verb p.path p.content) = t.answer write 200 v)
    (hx : p.answer .outlierReport (write t.written v) = .ok x) (ht : t.Represents k') :
    Agrees (.answer x, k') (p.run .outlierReport c (world write jitter threshold) s) :=
  agrees_of_success hc hp hroom hr (isPlain_answer (by decide) _) rfl hx (ht.written _)

/-- A plan for one report depends on whether its path has room and the report is there. -/
theorem agrees_with {path : String} {g : String → Record → Reaction × Catalogue}
    (hc : IsAttached c) (h : s.Represents k) (hp : p.path = path)
    (hfull : Catalogue.isFull path = true) (ho : p.operation ≠ "")
    (hfound : ∀ r members, k.records.lookup path = some r →
      s.reports.lookup path = some members → Record.Keeps members r → HasRoom path →
      Agrees (g path r) (p.run .outlierReport c (world write jitter threshold) s)) :
    Agrees (k.with? (some path) g) (p.run .outlierReport c (world write jitter threshold) s) := by
  subst hp
  have hpath := Catalogue.isPath_of_isFull hfull
  by_cases hlong : Url.longest < p.path.length + 3
  · have hwith : k.with? (some p.path) g = (.tooLong, k) := if_pos hlong
    obtain ⟨d, hd⟩ : ∃ d, c.request p.verb p.path p.content = .error (Redirect.troubleOf d) :=
      request_of_not_hasRoom hc hpath (Nat.not_le.mpr hlong)
    rw [hwith]
    exact agrees_of (Plan.run_of_refused hd nofun) .tooLong h
  · have hroom : HasRoom p.path := Nat.not_lt.mp hlong
    rcases h.reports.lookup p.path with ⟨hr, hm⟩ | ⟨r, members, hr, hm, hk⟩
    · have hwith : k.with? (some p.path) g = (.absent, k) := by
        simp only [Catalogue.with?, if_neg hlong, hr]
      have hresp : respond write s (requestOf c p.verb p.path p.content) =
          s.refuse write 404 "ObjectError.NotFound" := by
        rw [respond_requestOf hc, if_neg (Catalogue.ne_collection_of_isFull hfull), hm]
      obtain ⟨f, cause, hkind, hstatus, hrun⟩ := Plan.run_of_refusal
        (r := .outlierReport) (w := world write jitter threshold) (by decide) ho
        (request_of_hasRoom hc hpath hroom) hasType_requestOf hresp
        (isPlain_answer (by decide) _) rfl rfl
      rw [hwith]
      exact agrees_of hrun (.absent hkind hstatus) (h.written _)
    · have hwith : k.with? (some p.path) g = g p.path r := by
        simp only [Catalogue.with?, if_neg hlong, hr]
      rw [hwith]
      exact hfound r members hr hm hk hroom

/-- An operation on one report comes to what its identifier stands for, if that passes the check. -/
theorem agrees_checked {cid : Option String} {check : Except Failure String} {op : Operation}
    {plan : String → Plan} {g : String → Record → Reaction × Catalogue} (hc : IsAttached c)
    (h : s.Represents k)
    (hcheck : match cid with
      | some path => Catalogue.isFull path = true ∧ check = .ok path
      | none => Catalogue.IsRefused check)
    (hrefused : ∀ f, check = .error f → op.plan .outlierReport = .error f)
    (hplanned : ∀ path, check = .ok path → Planned .outlierReport op (plan path))
    (hpath : ∀ path, (plan path).path = path)
    (hfound : ∀ path r members, Catalogue.isFull path = true → HasRoom path →
      path ∈ k.records.names → s.reports.lookup path = some members → Record.Keeps members r →
      Agrees (g path r) ((plan path).run .outlierReport c (world write jitter threshold) s)) :
    Agrees (k.with? cid g)
      (op.call.perform .outlierReport c (world write jitter threshold) s) := by
  cases cid with
  | none =>
    obtain ⟨f, hf, hk⟩ := hcheck
    rw [Operation.perform_eq, hrefused _ hf]
    exact ⟨.invalid hk, h⟩
  | some path =>
    obtain ⟨hfull, hok⟩ := hcheck
    have hp := hplanned path hok
    rw [Operation.perform_of_plan (Operation.plan_of_planned hp)]
    refine agrees_with hc h (hpath path) hfull (Operation.name_ne_of_planned hp)
      fun r members hr hm hk hroom => hfound path r members hfull hroom ?_ hm hk
    by_contra hno
    rw [Pairs.lookup_eq_none_of_not_mem hno] at hr
    cases hr

/-! Calls, kind by kind. -/

/-- The request for a record that a plan carries is read as what the record has. -/
theorem members?_requestOf {r : Record} {verb : Verb} {path : String} (h : r.IsValid)
    (hf : r.Fits Json.lenient) :
    members? (requestOf c verb path (some (Utf8.encode (Json.text (.object r.given))))) =
      some r.given := by
  have hreadable : Json.Readable Json.lenient 0 (.object r.given) :=
    Record.readable_of_carries h hf (Record.carries_given h)
      (Record.nodup_names_given (Record.nodup_fields r.model)) fun _ _ => rfl
  have hread := Json.readChars?_print hreadable
  simp only [members?, requestOf, Option.bind_some, Utf8.encode, Json.toList_text,
    Utf8.decodeChars?_encodeChars, bind, hread]

theorem hasRoom_collection : HasRoom "/outlier_report" := by
  unfold HasRoom
  decide

theorem get_cid {r : Record} (h : r.IsValid) : r.get .cid = .ofOption r.cid? := by
  have hheld : Shape.text.Holds (r.get .cid) := h.holds .cid
  unfold Record.cid?
  generalize r.get .cid = v at hheld
  cases hheld <;> rfl

/-- An answer with an object that keeps a record is read as the record. -/
theorem answer_record {r : Record} {members : Pairs Value} (hw : Writes write)
    (hk : Record.Keeps members r) (he : p.expected = .fetched ∨ p.expected = .record) (n : Nat) :
    p.answer .outlierReport (write n (.object members)) = .ok (.record r) := by
  have hread : Record.ofBody Resource.outlierReport.model (write n (.object members)) = .ok r :=
    ofBody_write hw hk n
  rcases he with he | he <;> rw [Plan.answer, he, Expected.read, hread] <;> rfl

theorem agrees_create (hw : Writes write) (hc : IsAttached c) (h : s.Represents k) {r : Record}
    (hr : Action.IsValid (.create r)) :
    Agrees (k.perform (.create r))
      ((Operation.create (some r)).call.perform .outlierReport c (world write jitter threshold)
        s) := by
  obtain ⟨hm, hvalid, hstrict, hlenient⟩ := hr.record rfl
  have hkeeps := Record.keeps_created hm hvalid hstrict k.next
  have hresp := respond_post hc write s (some (Utf8.encode (Json.text (.object r.given))))
  rw [members?_requestOf hvalid hlenient, add, h.next] at hresp
  have hadded := h.added hkeeps s.written
  rw [h.next] at hadded
  rw [Operation.perform_of_plan (Operation.plan_of_planned
    (.create (Resource.bodyOf_of_isValid hvalid)))]
  exact agrees_of_answer hc Catalogue.isPath_collection hasRoom_collection hresp
    (answer_record hw hkeeps (.inr rfl) _) hadded

theorem agrees_fetch (hw : Writes write) (hc : IsAttached c) (h : s.Represents k)
    (cid : Option String) :
    Agrees (k.perform (.fetch cid)) ((Operation.fetch (.ofOption cid)).call.perform .outlierReport c
      (world write jitter threshold) s) := by
  refine agrees_checked hc h (Catalogue.normalize_ofOption cid) ?_ (fun path => .fetch)
    (fun _ => rfl) ?_
  · intro f hf
    simp only [Operation.plan, hf]
    rfl
  · intro path r members hfull hroom _ hm hk
    refine agrees_of_answer hc (Catalogue.isPath_of_isFull hfull) hroom ?_
      (answer_record hw hk (.inl rfl) _) h
    dsimp only
    rw [respond_requestOf hc, if_neg (Catalogue.ne_collection_of_isFull hfull), hm]

theorem agrees_fetchAll (hw : Writes write) (hc : IsAttached c) (h : s.Represents k) :
    Agrees (k.perform .fetchAll)
      (Operation.fetchAll.call.perform .outlierReport c (world write jitter threshold) s) := by
  have hread : (Plan.all .outlierReport).answer .outlierReport
      (write s.written (.list (s.reports.map fun p => .object p.2))) =
        .ok (.records (k.records.map (·.2))) := by
    have hall : Record.allOfBody Resource.outlierReport.model
        (write s.written (.list (s.reports.map fun p => .object p.2))) =
          .ok (k.records.map (·.2)) := allOfBody_write hw h s.written
    rw [Plan.answer, Plan.all, Expected.read, hall]
    rfl
  rw [Operation.perform_of_plan (Operation.plan_of_planned .fetchAll)]
  exact agrees_of_answer hc Catalogue.isPath_collection hasRoom_collection
    (respond_get_all hc write s) hread h

theorem agrees_update (hw : Writes write) (hc : IsAttached c) (h : s.Represents k) {r : Record}
    (hr : Action.IsValid (.update r)) :
    Agrees (k.perform (.update r))
      ((Operation.update (some r)).call.perform .outlierReport c (world write jitter threshold)
        s) := by
  obtain ⟨-, hvalid, hstrict, hlenient⟩ := hr.record rfl
  have hcheck := Catalogue.checkFull_ofOption r.cid?
  rw [← get_cid hvalid] at hcheck
  refine agrees_checked hc h hcheck ?_ (fun path hp =>
    .update hp (Resource.bodyOf_of_isValid hvalid)) (fun _ => rfl) ?_
  · intro f hf
    simp only [Operation.plan, Resource.require, Operation.ok_bind, hf]
    rfl
  · intro path old members hfull hroom hmem hm hk
    have hkeeps := hk.overlay hvalid hstrict
    refine agrees_of_answer hc (Catalogue.isPath_of_isFull hfull) hroom ?_
      (answer_record hw hkeeps (.inr rfl) _) (h.overlaid hkeeps hmem s.written)
    dsimp only
    rw [respond_requestOf hc, if_neg (Catalogue.ne_collection_of_isFull hfull), hm,
      members?_requestOf hvalid hlenient]
    rfl

/-- The report is gone, whichever operation deletes it. -/
theorem agrees_deletion {cid : Option String} {op : Operation} (hc : IsAttached c)
    (h : s.Represents k)
    (hrefused : ∀ f, Resource.outlierReport.normalize (.ofOption cid) = .error f →
      op.plan .outlierReport = .error f)
    (hplanned : ∀ path, Resource.outlierReport.normalize (.ofOption cid) = .ok path →
      Planned .outlierReport op (.deletion .outlierReport path)) :
    Agrees (k.with? (cid.bind Catalogue.full?) k.removed)
      (op.call.perform .outlierReport c (world write jitter threshold) s) := by
  refine agrees_checked hc h (Catalogue.normalize_ofOption cid) hrefused hplanned (fun _ => rfl) ?_
  intro path r members hfull hroom _ hm hk
  have hplain : Response.IsPlain ⟨204, [], []⟩ := isPlain_bare (by decide)
  refine agrees_of_success hc (Catalogue.isPath_of_isFull hfull) hroom ?_ hplain rfl rfl
    (h.removed path)
  dsimp only [Plan.deletion]
  rw [respond_requestOf hc, if_neg (Catalogue.ne_collection_of_isFull hfull), hm]
  rfl

/-- What one call comes to. -/
theorem agrees_perform (hw : Writes write) (hc : IsAttached c) (h : s.Represents k) {a : Action}
    (ha : a.IsValid) :
    Agrees (k.perform a)
      (a.operation.call.perform .outlierReport c (world write jitter threshold) s) := by
  cases a with
  | create r => exact agrees_create hw hc h ha
  | fetch cid => exact agrees_fetch hw hc h cid
  | fetchAll => exact agrees_fetchAll hw hc h
  | update r => exact agrees_update hw hc h ha
  | delete r =>
    obtain ⟨-, hvalid, -, -⟩ := ha.record rfl
    refine agrees_deletion hc h (fun f hf => ?_) fun path hp => ?_
    · rw [← get_cid hvalid] at hf
      simp only [Action.operation, Operation.plan, Resource.require, Operation.ok_bind, hf]
      rfl
    · rw [← get_cid hvalid] at hp
      exact .delete hp
  | deleteByCid cid =>
    refine agrees_deletion hc h (fun f hf => ?_) fun path hp => .deleteByCid hp
    simp only [Action.operation, Operation.plan, hf]
    rfl

theorem closes_call (op : Operation) : op.call.closes = false := by cases op <;> rfl

theorem agrees_run (hw : Writes write) (hc : IsAttached c) {actions : List Action}
    (ha : ∀ a ∈ actions, a.IsValid) (h : s.Represents k) :
    List.Forall₂ Agrees (k.run actions) (Call.run .outlierReport (world write jitter threshold)
      (actions.map (·.operation.call)) c s) := by
  induction actions generalizing k s with
  | nil => exact .nil
  | cons a actions ih =>
    have hstep : Agrees (k.perform a)
        (a.operation.call.perform .outlierReport c (world write jitter threshold) s) :=
      agrees_perform hw hc h (ha a List.mem_cons_self)
    have hafter : (a.operation.call).after c = c := by
      rw [Call.after, closes_call]
      rfl
    rw [Catalogue.run, List.map_cons, Call.run, hafter]
    exact .cons hstep (ih (fun b hb => ha b (List.mem_cons_of_mem _ hb)) hstep.2)

/-- Whatever calls are made on the server one after another, each gives what the same call on a
catalogue comes to, and leaves the same records behind. -/
theorem lifecycle_refines {write : Nat → Value → List UInt8} (jitter : Float) (threshold : Int)
    {connection : Connection} {debug : Bool} {c : Client} {actions : List Action}
    (hw : Writes write) (hu : connection.url = "https://api.example.com/v2")
    (ht : connection.token = "test-token") (hc : Client.create connection debug = .ok c)
    (ha : ∀ a ∈ actions, a.IsValid) :
    List.Forall₂ Agrees (Catalogue.start.run actions) (Call.run .outlierReport
      (world write jitter threshold) (actions.map (·.operation.call)) c start) :=
  agrees_run hw (isAttached_of_create hu ht hc) ha represents_start

/-- A report that is created, fetched, changed, listed, deleted and asked for again. -/
theorem lifecycle_refines_printed :
    let r := Record.built [("title", .text "a"), ("tags", .list [.text "b"])] .outlierReport
    let r' := Record.built [("_cid", .text "/outlier_report/1000"), ("title", .text "c")]
      .outlierReport
    let actions := [Action.create r, .fetch (some "1000"), .update r', .fetchAll, .delete r',
      .fetch (some "/outlier_report/1000")]
    Writes printed ∧ Client.create client.connection false = .ok client ∧
      (∀ a ∈ actions, a.IsValid) ∧
      List.Forall₂ Agrees (Catalogue.start.run actions) (Call.run .outlierReport
        (world printed 0 0) (actions.map (·.operation.call)) client start) := by
  intro r r' actions
  have hr : Record.IsValidated .outlierReport r ∧ ∀ f n, r.get f ≠ .int n := by
    refine ⟨Record.isValidated_built rfl, fun f n h => ?_⟩
    cases f <;> cases h
  have hr' : Record.IsValidated .outlierReport r' ∧ ∀ f n, r'.get f ≠ .int n := by
    refine ⟨Record.isValidated_built rfl, fun f n h => ?_⟩
    cases f <;> cases h
  have ha : ∀ a ∈ actions, a.IsValid := by
    intro a hm x hx
    have hcase : x = r ∨ x = r' := by
      simp only [actions, List.mem_cons, List.not_mem_nil, or_false] at hm
      rcases hm with rfl | rfl | rfl | rfl | rfl | rfl <;> cases hx <;> simp
    rcases hcase with rfl | rfl
    · exact ⟨hr.1, fun f n h => absurd h (hr.2 f n)⟩
    · exact ⟨hr'.1, fun f n h => absurd h (hr'.2 f n)⟩
  exact ⟨writes_printed, create_client, ha,
    lifecycle_refines 0 0 writes_printed rfl rfl create_client ha⟩

/-! What the server and the address have no room for. -/

theorem fetch_tooLong {path : String} (hw : Writes write) (hc : IsAttached c) (h : s.Represents k)
    (hfull : Catalogue.isFull path = true) (hlong : Url.longest < path.length + 3) :
    ∃ m, ((Operation.fetch (.text path)).call.perform .outlierReport c
      (world write jitter threshold) s).result = .error (.trouble .invalidUrl m) := by
  have hperform : k.perform (.fetch (some path)) = (.tooLong, k) := by
    have hcid : (some path).bind Catalogue.full? = some path := if_pos hfull
    rw [Catalogue.perform, hcid]
    exact if_pos hlong
  have hfetch : Agrees (k.perform (.fetch (some path))) ((Operation.fetch (.text path)).call.perform
      .outlierReport c (world write jitter threshold) s) := agrees_fetch hw hc h (some path)
  rw [hperform] at hfetch
  exact Reaction.error_of_tooLong hfetch.1

theorem given_dated {n : Int} (hn : n ≠ 0) :
    (Record.built [("_created", .int n)] .outlierReport).given = [("_created", .int n)] := by
  have he : Record.isEmpty (.int n) = false := beq_eq_false_iff_ne.mpr hn
  have hget : (Record.built [("_created", .int n)] .outlierReport).get .created = .int n := rfl
  have hfields : Model.outlierReport.fields.filter
      (fun f => !Record.isEmpty ((Record.built [("_created", .int n)] .outlierReport).get f)) =
        [.created] := by
    simp only [Model.fields, List.filter_cons, List.filter_nil, hget, he]
    rfl
  rw [Record.given]
  exact congrArg (List.map _) hfields

theorem isValidated_dated (n : Int) :
    Record.IsValidated .outlierReport (Record.built [("_created", .int n)] .outlierReport) :=
  Record.isValidated_built rfl

theorem create_tooLong {n : Nat} (hc : IsAttached c) (hn : 4300 < Decimal.digitCount n) :
    ((Operation.create (some (Record.built [("_created", .int n)] .outlierReport))).call.perform
      .outlierReport c (world write jitter threshold) s).result =
        .error (.trouble (.other "ValueError") "") := by
  have hne : (n : Int) ≠ 0 := by
    intro h
    rw [Int.natCast_eq_zero.mp h] at hn
    revert hn
    decide
  have hfits : Json.lenient.fits ⟨Nat.toDigits 10 (n : Int).natAbs, none, none⟩ = false :=
    decide_eq_false (Nat.not_le.mpr hn)
  have hbody : Resource.bodyOf (Record.built [("_created", .int n)] .outlierReport) =
      .ok (Utf8.encode (Json.text (.object [("_created", .int n)]))) := by
    rw [Resource.bodyOf_of_isValid (isValidated_dated n).isValid.2, given_dated hne]
  have hread : Json.readChars? Json.lenient (Json.print (.object [("_created", .int n)])) = none :=
    Json.readChars?_print_tooLong (fun _ _ => rfl) hfits
  have hmembers : members? (requestOf c .post "/outlier_report"
      (some (Utf8.encode (Json.text (.object [("_created", .int n)]))))) = none := by
    simp only [members?, requestOf, Option.bind_some, Utf8.encode, Json.toList_text,
      Utf8.decodeChars?_encodeChars, bind, hread, Option.bind_none]
  have hresp := respond_post hc write s
    (some (Utf8.encode (Json.text (.object [("_created", .int n)]))))
  rw [hmembers, add, unread] at hresp
  rw [Operation.perform_of_plan (Operation.plan_of_planned (.create hbody))]
  obtain ⟨es, hes⟩ := Client.exchange_of_reply (w := world write jitter threshold)
    (request_of_hasRoom hc Catalogue.isPath_collection hasRoom_collection) hresp rfl
  refine Plan.run_of_other (fun f cause h => ?_) (congrArg Outcome.result hes)
  cases h

/-- The least number of more than so many digits. -/
def exceeding (digits : Nat) : Nat := Nat.pow 10 digits

theorem lt_digitCount_exceeding {digits : Nat} (h : 0 < digits) :
    digits < Decimal.digitCount (exceeding digits) :=
  Decimal.lt_digitCount_pow h

/-- An identifier may be too long for an address, and an integer too long for JSON. -/
theorem lifecycle_tooLong :
    let cid := Resource.item (List.replicate 65536 '0')
    let r := Record.built [("_created", .int (exceeding 4300))] .outlierReport
    let result (op : Operation) :=
      (op.call.perform .outlierReport client (world printed 0 0) start).result
    Client.create client.connection false = .ok client ∧ Catalogue.isFull cid = true ∧
      (∃ m, result (.fetch (.text cid)) = .error (.trouble .invalidUrl m)) ∧
      Record.IsValidated .outlierReport r ∧
      result (.create (some r)) = .error (.trouble (.other "ValueError") "") := by
  intro cid r result
  have hc : IsAttached client := isAttached_of_create rfl rfl create_client
  have hdigits : Cid.IsRun Char.isDigit (List.replicate 65536 '0') := by
    refine ⟨List.ne_nil_of_length_pos ?_, fun d hd => ?_⟩
    · rw [List.length_replicate]
      decide
    · rw [List.eq_of_mem_replicate hd]
      rfl
  have hfull : Catalogue.isFull cid = true := Catalogue.isFull_iff.mpr ⟨_, rfl, hdigits⟩
  have hlong : Url.longest < cid.length + 3 := by
    have hlength := Resource.length_item (List.replicate 65536 '0')
    rw [List.length_replicate] at hlength
    have hcid : cid.length = 16 + 65536 := hlength
    rw [hcid]
    decide
  exact ⟨create_client, hfull, fetch_tooLong writes_printed hc represents_start hfull hlong,
    isValidated_dated _, create_tooLong hc (lt_digitCount_exceeding (by decide))⟩

end Server
end Outlier

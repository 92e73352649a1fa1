import Outlier.Proofs.Exchange.Rows
import Outlier.Proofs.Resource.Safety

/-! How long the rows of an operation are. All of them are bounded but the one about a response that is
refused, which has the whole text of the response in it. -/
namespace Outlier

theorem Resource.length_place (operation : String) :
    (place operation).length = 52 + operation.length := by
  have hjournal : journal.length = 48 := by decide
  have hcolon : ":".length = 1 := rfl
  have hdash : " - ".length = 3 := rfl
  simp only [place, String.length_append]
  omega

namespace Plan
variable {σ : Type} {r : Resource} {op : Operation} {p : Plan} {c : Client} {w : World σ} {s t : σ}
  {q : Request} {es : List Event} {f : Fault} {cause : Option Failure} {body : List UInt8}
  {size top : Nat} {text : String} {e : Failure}

/-- The bound for rows of an operation: that of its exchange, and the name of what it is about. -/
def rowLimit (r : Resource) (p : Plan) (c : Client) (text : String) (size top : Nat) : Nat :=
  700 + p.path.length + max r.name.length r.plural.length + text.length +
    Decimal.digitCount size + Decimal.digitCount top +
    2 * Decimal.digitCount c.connection.maxRetries

theorem length_of_planned (h : Planned r op p) :
    p.operation.length ≤ 9 ∧ p.context.length ≤ 10 + max r.name.length r.plural.length := by
  have hfetching : "fetching ".length = 9 := rfl
  have hcreating : "creating ".length = 9 := rfl
  have hupdating : "updating ".length = 9 := rfl
  have hdeleting : "deleting ".length = 9 := rfl
  have hsearching : "searching ".length = 10 := rfl
  have hoperations : ∀ name ∈ ["fetch", "fetch_all", "create", "update", "delete", "search"],
      name.length ≤ 9 := by decide
  refine ⟨hoperations _ ?_, ?_⟩
  · cases h <;> simp [all, deletion]
  · cases h <;> simp only [all, deletion, String.length_append] <;> omega

theorem isShort_traceEvents {operation what : String} (ho : operation.length ≤ 9)
    (hw : what.length ≤ 8) (hb : body.length ≤ size) :
    ∀ e ∈ traceEvents c w operation what body, e.IsShort (p.rowLimit r c text size top) := by
  have hjson : " JSON: ".length = 7 := rfl
  have hplace := Resource.length_place operation
  have hbody := Excerpt.length_ofBody hb
  unfold traceEvents
  split
  · refine World.isShort_noted ?_
    simp only [String.length_append, rowLimit]
    omega
  · exact List.forall_mem_nil _

theorem isShort_openingEvents (ho : p.operation.length ≤ 9)
    (hb : ∀ content, p.content = some content → content.length ≤ size) :
    ∀ e ∈ p.openingEvents c w, e.IsShort (p.rowLimit r c text size top) := by
  unfold openingEvents
  cases hc : p.content with
  | none => exact List.forall_mem_nil _
  | some content => exact isShort_traceEvents ho (by decide) (hb content hc)

theorem isShort_closingEvents (ho : p.operation.length ≤ 9) (hb : body.length ≤ size) :
    ∀ e ∈ p.closingEvents c w body, e.IsShort (p.rowLimit r c text size top) := by
  unfold closingEvents
  cases p.expected with
  | fetched => exact isShort_traceEvents ho (by decide) hb
  | nothing =>
    have hplace := Resource.length_place "delete_by_cid"
    have hoperation : "delete_by_cid".length = 13 := rfl
    have hdeleted : "deleted ".length = 8 := rfl
    refine World.isShort_noted ?_
    simp only [String.length_append, rowLimit]
    omega
  | _ => exact List.forall_mem_nil _

/-- The row about an exchange that the HTTP layer could not complete. -/
theorem isShort_requestEvents (hl : p.operation.length ≤ 9 ∧
      p.context.length ≤ 10 + max r.name.length r.plural.length) :
    ∀ e ∈ r.requestEvents w p.context p.operation (Client.transportFault p.verb p.path text),
      e.IsShort (p.rowLimit r c text size top) := by
  have hplace := Resource.length_place p.operation
  have hline := Client.length_line p.verb p.path
  have hcolon : ": ".length = 2 := rfl
  have hfailed : " failed: ".length = 9 := rfl
  unfold Resource.requestEvents
  split
  · refine List.forall_mem_singleton.mpr fun row hrow => ?_
    cases hrow
    simp only [Resource.requestRow, Resource.requestMessage, Client.transportFault, Fault.make,
      Value.plain, String.length_append, rowLimit]
    omega
  · exact List.forall_mem_nil _

theorem events_of_fault (hf : f.IsOfExchange) (hk : f.kind.lineage.contains .api = true)
    (h : c.exchange p.verb p.path p.content w s = ⟨es, t, .error (.fault f cause)⟩) :
    (p.run r c w s).events =
      p.openingEvents c w ++ (es ++ r.requestEvents w p.context p.operation f) := by
  have hguarded := Resource.guarded_fault (r := r) p.context p.operation hk h
  rw [Resource.requestFault_of_isFree (Resource.isFree_of_isOfExchange hf w.threshold)] at hguarded
  rw [run_of_guarded_error hguarded]

theorem events_of_other (hf : Client.IsForeign e)
    (h : c.exchange p.verb p.path p.content w s = ⟨es, t, .error e⟩) :
    (p.run r c w s).events = p.openingEvents c w ++ es := by
  rw [run_of_guarded_error (Resource.guarded_of_other hf h)]

/-- A row that tells all of the text of a response that is refused. -/
structure TellsAll (r : Resource) (p : Plan) (a : Response) (row : Row) : Prop where
  refused : a.isSuccess = false
  logger : row.logger = Resource.journal
  level : row.level = Severity.error.name
  message : ∃ text, a.text = .ok text ∧
    row.message = Resource.place p.operation ++ (p.context ++ ": " ++
      ("API response code " ++ String.ofList (Numeral.ofInt a.status) ++ ": " ++ text))

/-- What the last attempt of a plan takes in. -/
def lastTaken (p : Plan) (c : Client) (w : World σ) (s : σ) : Except Failure Response :=
  match c.request p.verb p.path p.content with
  | .ok q => Client.taken q (c.lastReply w q s)
  | .error f => .error f

theorem tellsAll_requestRow {a : Response} (hs : a.isSuccess = false) (ht : a.text = .ok text) :
    TellsAll r p a (r.requestRow p.context p.operation
      (.response a.status text p.verb.name p.path)) :=
  ⟨hs, rfl, rfl, text, ht, rfl⟩

theorem exchange_rowLimit_le :
    c.rowLimit p.path text size top ≤ p.rowLimit r c text size top := by
  unfold Client.rowLimit rowLimit
  omega

/-- What follows the exchange of an operation is decided by what the last attempt took in. -/
theorem rows_of_decided {x : Except Failure Response} {y : Except Failure (List UInt8)}
    (hp : Planned r op p) (hd : Client.Decided p.verb p.path x y) (hx : Client.Fits size top x)
    (hf : Client.FailsForeign x) (h : c.exchange p.verb p.path p.content w s = ⟨es, t, y⟩)
    (hes : ∀ e ∈ p.openingEvents c w ++ es,
      e.IsShort (p.rowLimit r c (Client.troubleText x) size top)) :
    ∀ e ∈ (p.run r c w s).events,
      e.IsShort (p.rowLimit r c (Client.troubleText x) size top) ∨
        ∃ a row, x = .ok a ∧ e = .logged row ∧ TellsAll r p a row := by
  have hl := length_of_planned hp
  cases hd with
  | @body a hs =>
    rw [run_of_ok h, ← List.append_assoc]
    refine List.forall_mem_append.mpr ⟨fun e he => .inl (hes e he), fun e he => .inl ?_⟩
    exact isShort_closingEvents hl.1 (hx a rfl).1 e he
  | @refusal a text hs ht =>
    rw [events_of_fault (Fault.isOfExchange_response _ _ _ _) rfl h, ← List.append_assoc]
    refine List.forall_mem_append.mpr ⟨fun e he => .inl (hes e he), fun e he => .inr ?_⟩
    unfold Resource.requestEvents at he
    split at he
    · exact ⟨a, _, rfl, List.mem_singleton.mp he, tellsAll_requestRow hs ht⟩
    · cases he
  | @broken trouble message ht =>
    rw [events_of_fault (Fault.isOfExchange_transport _ _ _) rfl h, ← List.append_assoc]
    refine List.forall_mem_append.mpr ⟨fun e he => .inl (hes e he), fun e he => .inl ?_⟩
    exact isShort_requestEvents hl e he
  | @unreadable a u hs hu =>
    have hforeign : Client.IsForeign (.unreadable u) := nofun
    rw [events_of_other hforeign h]
    exact fun e he => .inl (hes e he)
  | @unordered f m hm =>
    have hforeign : Client.IsForeign (.misuse m) := nofun
    rw [events_of_other hforeign h]
    exact fun e he => .inl (hes e he)
  | other hr ht =>
    rw [events_of_other (hf _ rfl) h]
    exact fun e he => .inl (hes e he)

/-- The rows of an operation are bounded, but for one about a response that is refused. -/
theorem rows_run (hp : Planned r op p) (hw : ∀ q, (c.lastReply w q s).IsServed)
    (hb : ∀ content, p.content = some content → content.length ≤ size)
    (hx : ∀ q, c.request p.verb p.path p.content = .ok q →
      ∀ n ≤ c.connection.maxRetries, Client.Fits size top (Client.taken q (w.replyAt q s n))) :
    ∀ e ∈ (p.run r c w s).events,
      e.IsShort (p.rowLimit r c (Client.troubleText (p.lastTaken c w s)) size top) ∨
        ∃ a row, p.lastTaken c w s = .ok a ∧ e = .logged row ∧ TellsAll r p a row := by
  have hoperation := (length_of_planned hp).1
  unfold lastTaken
  cases hq : c.request p.verb p.path p.content with
  | error f =>
    rw [events_of_other (Client.request_error hq).foreign (Client.exchange_refused hq)]
    refine List.forall_mem_append.mpr ⟨fun e he => .inl ?_, fun e he => .inl ?_⟩
    · exact isShort_openingEvents hoperation hb e he
    · exact (Client.isShort_openingEvents hb e he).mono exchange_rowLimit_le
  | ok q =>
    have hfits := Client.fits_lastReply (hx q hq)
    refine rows_of_decided hp (Client.decided_concluded _) hfits (Client.failsForeign_taken (hw q) q)
      (Outcome.eq_of_result (Client.exchange_result hq)) ?_
    refine List.forall_mem_append.mpr ⟨isShort_openingEvents hoperation hb, fun e he => ?_⟩
    exact (Client.isShort_exchange hq hb (hx q hq) (hw q) e he).mono exchange_rowLimit_le

end Plan

namespace Operation
variable {σ : Type}

/-- Whatever the bodies, the message of every row that an operation leaves behind is bounded, but for
the row about a response that is refused, which tells all of its text. -/
theorem rows_bounded_but_refusals (r : Resource) (op : Operation) (c : Client) (w : World σ) (s : σ)
    (hw : ∀ q, (c.lastReply w q s).IsServed) :
    match op.plan r with
    | .error _ => (op.call.perform r c w s).events = []
    | .ok p => ∀ size top,
      (∀ content, p.content = some content → content.length ≤ size) →
      (∀ q, c.request p.verb p.path p.content = .ok q → ∀ n ≤ c.connection.maxRetries,
        Client.Fits size top (Client.taken q (w.replyAt q s n))) →
      ∀ row, Event.logged row ∈ (op.call.perform r c w s).events →
        row.message.length ≤ 700 + p.path.length + max r.name.length r.plural.length +
          (Client.troubleText (p.lastTaken c w s)).length + Decimal.digitCount size +
          Decimal.digitCount top + 2 * Decimal.digitCount c.connection.maxRetries ∨
        ∃ a, p.lastTaken c w s = .ok a ∧ Plan.TellsAll r p a row := by
  cases hp : op.plan r with
  | error f =>
    rw [perform_eq, hp, Activity.ofExcept_error_bind]
    rfl
  | ok p =>
    intro size top hb hx row hrow
    rw [perform_of_plan hp] at hrow
    rcases Plan.rows_run (planned_of_plan hp) hw hb hx _ hrow with hshort | ⟨a, other, ha, he, ht⟩
    · exact .inl (hshort row rfl)
    · cases he
      exact .inr ⟨a, ha, ht⟩

theorem isBare_headless (status : Int) (body : List UInt8) : Response.IsBare ⟨status, [], body⟩ :=
  ⟨rfl, rfl, nofun⟩

theorem taken_headless (path : String) (status : Int) (body : List UInt8) :
    Client.taken (Client.sample.requestAt path) (.response ⟨status, [], body⟩) =
      .ok ⟨status, [], body⟩ := by
  refine Client.taken_of_isPlain rfl rfl ⟨isBare_headless status body, ?_⟩
  unfold Redirect.location?
  split <;> rfl

theorem fits_headless {path : String} {status : Int} {body : List UInt8} {size top : Nat}
    (hb : body.length ≤ size) (hs : status.natAbs ≤ top) :
    Client.Fits size top
      (Client.taken (Client.sample.requestAt path) (.response ⟨status, [], body⟩)) := by
  intro a ha
  cases (taken_headless path status body).symm.trans ha
  exact ⟨hb, hs⟩

theorem lastReply_of_goesOn {c : Client} {w : World σ} {q : Request} {s : σ}
    (hc : c.connection.maxRetries = 1) (h : c.goesOn w q s 1 0 = true) :
    c.lastReply w q s = w.replyAt q s 1 := by
  have hlast : Client.lastAttempt (c.goesOn w q s 1) 1 = 1 := by
    rw [Client.lastAttempt_succ, if_pos h, Client.lastAttempt_zero]
  rw [Client.lastReply, Client.refusedWait?, hc, hlast]
  rfl

/-- An attempt that is throttled and one that is refused, with bodies of a thousand bytes. -/
theorem rows_bounded_but_refusals_retried :
    let body := List.replicate 1000 (0x78 : UInt8)
    let o := (fetch (.text "1")).call.perform .outlierReport { Client.sample with debug := true }
      (Script.world 0 0) [.response ⟨429, [], body⟩, .response ⟨404, [], body⟩]
    ∀ row, Event.logged row ∈ o.events → row.message.length ≤ 741 ∨
      ∃ text, row.message = "circonus_client.boundary.resources.base_resource:fetch - " ++
        ("fetching outlier report: " ++ ("API response code 404: " ++ text)) := by
  intro body o row hrow
  have hlength : body.length ≤ 1000 := Nat.le_of_eq List.length_replicate
  clear_value body
  let script : Script := [.response ⟨429, [], body⟩, .response ⟨404, [], body⟩]
  let c : Client := { Client.sample with debug := true }
  let p : Plan := ⟨"fetch", "fetching outlier report", .get, "/outlier_report/1", none, .fetched⟩
  have hq : ({ Client.sample with debug := true } : Client).request .get "/outlier_report/1" none =
      .ok (Client.sample.requestAt "/outlier_report/1") := rfl
  have hserved : ∀ reply ∈ script, reply.IsServed := by simp [script, Reply.IsServed]
  have hfits : ∀ q, c.request .get "/outlier_report/1" none = .ok q →
      ∀ n ≤ 1, Client.Fits 1000 429 (Client.taken q ((Script.world 0 0).replyAt q script n)) := by
    rintro q hq' n hn
    cases hq.symm.trans hq'
    rcases Nat.le_one_iff_eq_zero_or_eq_one.mp hn with rfl | rfl <;>
      exact fits_headless hlength (by decide)
  have hlast : p.lastTaken c (Script.world 0 0) script = .ok ⟨404, [], body⟩ := by
    have hpass : Client.mayPass (Client.taken (Client.sample.requestAt "/outlier_report/1")
        (.response ⟨429, [], body⟩)) = true := by
      have htext := Response.text_of_isBare (isBare_headless 429 body)
      rw [taken_headless, Client.mayPass, htext]
      rfl
    have hreply : c.lastReply (Script.world 0 0) (Client.sample.requestAt "/outlier_report/1")
        script = .response ⟨404, [], body⟩ := by
      refine lastReply_of_goesOn rfl ?_
      rw [Client.goesOn, Bool.and_eq_true]
      exact ⟨hpass, rfl⟩
    rw [Plan.lastTaken, hq]
    exact (congrArg _ hreply).trans (taken_headless _ _ _)
  have hcontent : ∀ content, p.content = some content → content.length ≤ 1000 := by
    rintro content ⟨⟩
  rcases rows_bounded_but_refusals .outlierReport (fetch (.text "1")) c (Script.world 0 0)
    script (c.isServed_lastReply (Script.isServed_world 0 0 _) hserved) 1000 429 hcontent hfits row
    hrow with hshort | ⟨a, ha, ht⟩
  · left
    have htext : Client.troubleText (p.lastTaken c (Script.world 0 0) script) = "" := by
      rw [hlast]
      rfl
    have hbound : 700 + p.path.length + max Resource.outlierReport.name.length
        Resource.outlierReport.plural.length +
          (Client.troubleText (p.lastTaken c (Script.world 0 0) script)).length +
          Decimal.digitCount 1000 + Decimal.digitCount 429 + 2 * Decimal.digitCount 1 = 741 := by
      rw [htext]
      decide
    exact Nat.le_trans hshort (Nat.le_of_eq hbound)
  · cases hlast.symm.trans ha
    obtain ⟨text, -, hmessage⟩ := ht.message
    have hplace : Resource.place "fetch" =
        "circonus_client.boundary.resources.base_resource:fetch - " := by decide
    have hcontext : "fetching " ++ Resource.outlierReport.name ++ ": " =
        "fetching outlier report: " := by decide
    have hcode : "API response code " ++ String.ofList (Numeral.ofInt 404) ++ ": " =
        "API response code 404: " := by decide
    rw [← hplace, ← hcontext, ← hcode]
    exact .inr ⟨text, hmessage⟩

/-- A refusal of fetching a record by a body. -/
theorem logged_refusal (body : List UInt8) :
    Event.logged (Resource.requestRow .outlierReport "fetching outlier report" "fetch"
        (.response 404 (Utf8.decodeLossy body) "GET" "/outlier_report/1")) ∈
      ((fetch (.text "1")).call.perform .outlierReport Client.sample (Script.world 0 0)
        [.response ⟨404, [], body⟩]).events := by
  let q := Client.sample.requestAt "/outlier_report/1"
  let script : Script := [.response ⟨404, [], body⟩]
  have hp : (fetch (.text "1")).plan .outlierReport =
      .ok ⟨"fetch", "fetching outlier report", .get, "/outlier_report/1", none, .fetched⟩ := rfl
  have hq : Client.sample.request .get "/outlier_report/1" none = .ok q := rfl
  have hlast : Client.sample.lastReply (Script.world 0 0) q script =
      .response ⟨404, [], body⟩ := rfl
  have htext : (⟨404, [], body⟩ : Response).text = .ok (Utf8.decodeLossy body) :=
    Response.text_of_isBare (isBare_headless 404 body)
  have hresult : (Client.sample.exchange .get "/outlier_report/1" none (Script.world 0 0)
      script).result = .error (.fault (.response 404 (Utf8.decodeLossy body) "GET"
        "/outlier_report/1") none) := by
    rw [Client.exchange_result hq, hlast, taken_headless]
    exact Client.concluded_of_text rfl htext
  rw [perform_of_plan hp, Plan.events_of_fault (Fault.isOfExchange_response _ _ _ _) rfl
    (Outcome.eq_of_result hresult)]
  exact List.mem_append_right _ (List.mem_append_right _ List.mem_cons_self)

/-- The row about a refused response with a long text is longer than what it is about, by more than
a thousand characters. -/
theorem refusal_row_too_long :
    let body := List.replicate 1100 (0x78 : UInt8)
    let o := (fetch (.text "1")).call.perform .outlierReport Client.sample (Script.world 0 0)
      [.response ⟨404, [], body⟩]
    ∃ row, Event.logged row ∈ o.events ∧
      1000 + "/outlier_report/1".length + Resource.outlierReport.name.length +
        Decimal.digitCount body.length < row.message.length := by
  intro body o
  refine ⟨_, logged_refusal body, ?_⟩
  have htext : (Utf8.decodeLossy body).length = 1100 := by
    rw [Utf8.decodeLossy, Utf8.lossyChars_replicate, String.length_ofList, List.length_replicate]
  have hbody : body.length = 1100 := List.length_replicate
  have hdigits : Decimal.digitCount 1100 = 4 := by decide
  have hpath : "/outlier_report/1".length = 17 := rfl
  have hname : Resource.outlierReport.name.length = 14 := rfl
  rw [hbody, hdigits, hpath, hname]
  have hmessage : (Fault.response 404 (Utf8.decodeLossy body) "GET" "/outlier_report/1").message =
      .text ("API response code 404: " ++ Utf8.decodeLossy body) := rfl
  simp only [Resource.requestRow, Resource.requestMessage, hmessage, Value.plain,
    String.length_append, htext]
  decide

end Operation
end Outlier

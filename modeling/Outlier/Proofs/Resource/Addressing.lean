import Outlier.Exchange.Script
import Outlier.Proofs.Exchange.Base
import Outlier.Proofs.Exchange.Closing
import Outlier.Proofs.Resource.Search
import Outlier.Proofs.Settings.Loaded

/-! Requests as the settings have them: at addresses below that of the service, with headers that
say on whose behalf they are made. -/
namespace Outlier

variable {σ : Type} {x : Connection} {debug : Bool} {c : Client} {a : String} {u base : Url}
  {op : Operation} {p : Plan} {q : Request} {path : String}

/-! Paths. -/

/-- A path of plain characters, with no dots unless they are in the query behind it. -/
def Url.IsInternal (path : String) : Prop := ∃ rest form,
  path.toList = '/' :: rest ++ Url.led '?' form ∧ Url.IsPlain rest form ∧ '.' ∉ rest

theorem isInternal_of_isPlain
    (h : ∃ rest, path.toList = '/' :: rest ∧ Url.IsPlain rest none ∧ '.' ∉ rest) :
    Url.IsInternal path := by
  obtain ⟨rest, hp, hplain, hdot⟩ := h
  exact ⟨rest, none, by rw [hp, Url.led, List.append_nil], hplain, hdot⟩

theorem isInternal_search (criteria : List (String × Value)) :
    Url.IsInternal ("/outlier_report" ++ "?" ++ Search.encode criteria) := by
  obtain ⟨rest, hp, hplain, hdot⟩ := Resource.isPlain_collection
  refine ⟨rest, some (Search.encodeChars criteria), ?_, ⟨hplain.head, hplain.path, ?_⟩, hdot⟩
  · have hcollection : "/outlier_report".toList = '/' :: rest := hp
    have hmark : "?".toList = ['?'] := rfl
    rw [String.toList_append, String.toList_append, hcollection, hmark, Search.encode,
      String.toList_ofList, List.append_assoc]
    rfl
  · rintro _ ⟨⟩ c hc
    exact Search.isPlain_of_isFormChar (Search.isFormChar_of_mem hc)

theorem Dispatches.isInternal {verb : Verb} {body : Option (List UInt8)}
    (h : Dispatches op verb path body) : Url.IsInternal path := by
  cases h with
  | fetch hd => exact isInternal_of_isPlain (Resource.isPlain_item hd.2)
  | fetchAll => exact isInternal_of_isPlain Resource.isPlain_collection
  | create => exact isInternal_of_isPlain Resource.isPlain_collection
  | update hd => exact isInternal_of_isPlain (Resource.isPlain_item hd.2)
  | delete hd => exact isInternal_of_isPlain (Resource.isPlain_item hd.2)
  | deleteByCid hd => exact isInternal_of_isPlain (Resource.isPlain_item hd.2)
  | searchAll => exact isInternal_of_isPlain Resource.isPlain_collection
  | search => exact isInternal_search _

namespace Url

theorem defect?_of_isInternal (h : IsInternal path) (hlen : path.length ≤ longest) :
    defect? path.toList = none := by
  obtain ⟨rest, form, hp, hplain, -⟩ := h
  refine defect?_eq_none.mpr ⟨by rwa [String.length_toList], fun c hc => ?_⟩
  rw [hp] at hc
  rcases List.mem_append.mp hc with hc | hc
  · rcases List.mem_cons.mp hc with rfl | hc
    · rfl
    · exact isControl_of_isPlain (hplain.path c hc)
  · cases form with
    | none => cases hc
    | some t =>
      rcases List.mem_cons.mp hc with rfl | hc
      · rfl
      · exact isControl_of_isPlain (hplain.query t rfl c hc)

/-- The address of an internal path under a base is the one text behind the other. -/
theorem join_of_isBase (ha : IsBase a u) (hb : IsKeptAs u base) (h : IsInternal path) {v : Url}
    (hj : base.join path = .ok v) : v.text = a ++ path ∧ v.authority = u.authority := by
  obtain ⟨rest, form, hp, hplain, hdot⟩ := h
  rw [ha.isNormal.join_under hb hplain hdot hp (defect?_of_join hj)] at hj
  split at hj
  · cases hj
  split at hj
  · cases hj
  cases hj
  refine ⟨?_, rfl⟩
  rw [text, ha.toChars_under, ← hp, ← String.toList_append, String.ofList_toList]

/-- There is such an address if the path of the base has room for it. -/
theorem exists_join (ha : IsBase a u) (hb : IsKeptAs u base) (h : IsInternal path)
    (hlen : u.path.length + path.length ≤ longest) : ∃ v, base.join path = .ok v := by
  have hd := defect?_of_isInternal h (by omega)
  obtain ⟨rest, form, hp, hplain, hdot⟩ := h
  rw [← String.length_toList, hp, List.length_append, List.length_cons] at hlen
  have hform : (form.getD []).length ≤ (led '?' form).length := by
    cases form with
    | none => exact le_refl 0
    | some t => exact Nat.le_succ t.length
  have hpath : ¬ longest < (u.path ++ '/' :: rest).length := by
    rw [List.length_append, List.length_cons]
    omega
  rw [ha.isNormal.join_under hb hplain hdot hp hd, if_neg hpath, if_neg (by omega)]
  exact ⟨_, rfl⟩

end Url

/-! Requests. -/

/-- A request as the settings have it for a plan: under the address of the service, with the headers
of whoever makes it, once each. -/
structure Request.IsFor (q : Request) (x : Connection) (p : Plan) : Prop where
  verb : q.verb = p.verb
  url : q.url.text = x.url ++ p.path
  body : q.body = p.content
  token : q.headers.lookup "x-circonus-auth-token" = some x.token
  appName : q.headers.lookup "x-circonus-app-name" = some x.appName
  accept : q.headers.lookup "accept" = some "application/json"
  account : q.headers.lookup "x-circonus-account-id" = x.accountId.filter (· ≠ "")
  contentType : q.headers.lookup "content-type" = p.content.map fun _ => "application/json"
  once : q.headers.names.Nodup

namespace Client
variable {verb : Verb} {body : Option (List UInt8)}

theorem nodup_headers (c : Client) (hasBody : Bool) : (c.headers hasBody).names.Nodup := by
  unfold headers
  cases hasBody <;> dsimp only <;> split <;> simp [Pairs.names]

/-- An account is named if it is not empty, and the type of a body if there is one. -/
theorem lookup_headers (c : Client) (hasBody : Bool) :
    (c.headers hasBody).lookup "accept" = some "application/json" ∧
      (c.headers hasBody).lookup "x-circonus-account-id" =
        c.connection.accountId.filter (· ≠ "") ∧
      (c.headers hasBody).lookup "content-type" =
        if hasBody then some "application/json" else none := by
  unfold headers
  cases c.connection.accountId with
  | none => cases hasBody <;> exact ⟨rfl, rfl, rfl⟩
  | some id =>
    by_cases h : id = ""
    · subst h
      cases hasBody <;> exact ⟨rfl, rfl, rfl⟩
    · have hfilter : (some id).filter (· ≠ "") = some id := by simp [h]
      rw [hfilter]
      cases hasBody <;> simp [List.lookup_cons, h]

theorem headers_of_request (h : c.request verb path body = .ok q) :
    q.headers = c.headers body.isSome := by
  obtain ⟨url, -, h⟩ := ok_of_bind h
  obtain ⟨_, -, h⟩ := ok_of_bind h
  split at h
  · cases h
    rfl
  · cases h

theorem isFor_of_request (hq : c.request p.verb p.path p.content = .ok q)
    (hurl : q.url.text = c.connection.url ++ p.path) : q.IsFor c.connection p := by
  obtain ⟨hverb, hbody, -⟩ := request_ok hq
  have hheaders := headers_of_request hq
  obtain ⟨haccept, haccount, htype⟩ := lookup_headers c p.content.isSome
  rw [← hheaders] at haccept haccount htype
  refine ⟨hverb, hurl, hbody, by rw [hheaders]; rfl, by rw [hheaders]; rfl, haccept, haccount, ?_,
    hheaders ▸ nodup_headers c _⟩
  rw [htype]
  cases p.content <;> rfl

/-- Whether a host can be named depends on the authority only. -/
theorem checkHost_congr {v : Url} (h : v.authority = u.authority) : checkHost v = checkHost u := by
  unfold checkHost Redirect.hostOf Redirect.checkName Url.hostName
  rw [h]

theorem exists_request (ha : Url.IsBase c.connection.url u) (hb : Url.IsKeptAs u c.base)
    (hopen : c.isOpen = true) (hpath : Url.IsInternal path) (hhost : checkHost u = .ok ())
    (hlen : u.path.length + path.length ≤ Url.longest) :
    ∃ q, c.request verb path body = .ok q := by
  obtain ⟨v, hv⟩ := Url.exists_join ha hb hpath hlen
  have hlocated : c.located path = .ok v := by
    unfold located
    rw [hv]
    simp only [mapError_ok, bind, Except.bind]
    rw [checkHost_congr (Url.join_of_isBase ha hb hpath hv).2, hhost]
    rfl
  exact ⟨_, by rw [request_of_located hlocated, if_pos hopen]⟩

end Client

/-- All attempts of an operation make one request, as the settings have it: the address of the
service is the one that is set, without the slashes behind it, and the path and query of the
operation follow it as they are. If there is room for the path and the host can be named there is a
request. -/
theorem Operation.requests_under_base {look : String → Option Value} {n : Nat}
    (hx : Connection.check look = .good x)
    (hurl : Coercion.text ((look "url").getD (.text Connection.defaultUrl)) =
      .ok (a ++ String.ofList (List.replicate n '/')))
    (ha : Url.IsBase a u) (hc : Client.create x debug = .ok c)
    (hp : op.plan .outlierReport = .ok p) (w : World σ) (s : σ) :
    let o := op.call.perform .outlierReport c w s
    let requests := o.events.filterMap Event.request?
    x.url = a ∧ (∀ q ∈ requests, q.IsFor x p ∧ ∀ q' ∈ requests, q' = q) ∧
      (Client.checkHost u = .ok () → u.path.length + p.path.length ≤ Url.longest →
        requests ≠ []) := by
  intro o requests
  have hxa : x.url = a := Connection.url_of_slashes hx ha.last hurl
  subst hxa
  obtain ⟨base, hbase, rfl⟩ := Client.of_create hc
  obtain ⟨_, hread, hkept⟩ := ha.readBase
  cases hbase.symm.trans hread
  have hpath : Url.IsInternal p.path := (dispatches_of_planned (planned_of_plan hp)).isInternal
  have hrequests : requests = _ := requests_of_plan hp
  refine ⟨rfl, ?_⟩
  cases hq : (Client.mk x base debug true).request p.verb p.path p.content with
  | error f =>
    rw [hrequests, Client.requests_exchange_refused hq]
    refine ⟨List.forall_mem_nil _, fun hhost hlen => ?_⟩
    obtain ⟨q, hq'⟩ := Client.exists_request (c := ⟨x, base, debug, true⟩) ha hkept rfl hpath hhost
      hlen
    rw [hq'] at hq
    cases hq
  | ok q =>
    obtain ⟨n, hn⟩ := Client.requests_exchange hq
    have hjoin := (Client.request_ok hq).2.2
    have hfor : q.IsFor x p :=
      Client.isFor_of_request hq (Url.join_of_isBase ha hkept hpath hjoin).1
    rw [hrequests, hn]
    refine ⟨fun q' hq' => ?_, fun _ _ => nofun⟩
    obtain rfl := List.eq_of_mem_replicate hq'
    exact ⟨hfor, fun _ => List.eq_of_mem_replicate⟩

/-- The address `https://h:8080/v2`. -/
def Url.ported : Url := ⟨"https".toList, ⟨[], ['h'], some 8080⟩, "/v2".toList, none, none⟩

theorem Url.isBase_ported : IsBase "https://h:8080/v2" ported where
  read := by decide +kernel
  text := by decide +kernel
  scheme := by decide
  host := by decide
  path := ⟨by decide +kernel, by decide +kernel⟩
  query := rfl
  fragment := rfl
  last := by decide +kernel

def Connection.ported : Connection where
  debug := false
  logLevel := "INFO"
  token := "t"
  appName := defaultAppName
  accountId := some "7"
  url := "https://h:8080/v2"
  timeout := 30
  maxRetries := 4
  shortestWait := 1
  longestWait := 15
  caFile := none

/-- Two slashes behind an address with a port and a path, and a search that is tried again. -/
theorem Operation.requests_under_base_slashes :
    let given : Pairs Value := [("token", .text "t"), ("account_id", .text "7"),
      ("url", .text "https://h:8080/v2//")]
    let op := search (some "a b/") (Search.given [])
    ∃ c p, Connection.check (given.lookup ·) = .good .ported ∧
      Client.create .ported false = .ok c ∧ op.plan .outlierReport = .ok p ∧
      let requests := (op.call.perform .outlierReport c (Script.world 0 0)
        [.response ⟨500, [], []⟩, .response ⟨200, [], []⟩]).events.filterMap Event.request?
      requests ≠ [] ∧ ∀ q ∈ requests, q.IsFor .ported p ∧
        q.url.text = "https://h:8080/v2/outlier_report?search=a+b%2F" := by
  intro given op
  have hx : Connection.check (given.lookup ·) = .good .ported := rfl
  have hurl : Coercion.text ((given.lookup "url").getD (.text Connection.defaultUrl)) =
    .ok ("https://h:8080/v2" ++ String.ofList (List.replicate 2 '/')) := by decide
  have hbase : Url.readBase Connection.ported.url = .ok (Url.ported.under [] none) := by
    decide +kernel
  have hc : Client.create .ported false =
      .ok ⟨.ported, Url.ported.under [] none, false, true⟩ := by
    unfold Client.create
    rw [hbase]
    rfl
  have hp := plan_given .outlierReport (some "a b/") []
  obtain ⟨-, hall, hsome⟩ := requests_under_base hx hurl Url.isBase_ported hc hp
    (Script.world 0 0) [.response ⟨500, [], []⟩, .response ⟨200, [], []⟩]
  refine ⟨_, _, hx, hc, hp, hsome rfl (by decide +kernel), fun q hq => ⟨(hall q hq).1, ?_⟩⟩
  rw [(hall q hq).1.url]
  decide +kernel

end Outlier

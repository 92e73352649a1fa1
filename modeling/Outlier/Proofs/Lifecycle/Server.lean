import Mathlib.Data.List.Forall2
import Outlier.Proofs.Exchange.Plain
import Outlier.Proofs.Exchange.Url
import Outlier.Proofs.Json.Ascii

/-! A server that keeps reports in memory, as the world of a client. Searches are left out. -/
namespace Outlier

/-- Reports under their identifiers in the order in which they came, the number of the next one, and
how many values have been written out. -/
structure Server where
  next : Nat
  reports : Pairs (Pairs Value)
  written : Nat

namespace Server

def start : Server := ⟨1000, [], 0⟩

/-- The time at which every report is created. -/
def clock : Int := 1700000000

def identifier (n : Nat) : String := "/outlier_report/" ++ toString n

/-- The path of a request below the version. -/
def route (path : List Char) : String :=
  String.ofList (if "/v2".toList.isPrefixOf path then path.drop 3 else path)

/-- The members of the object in the body of a request. -/
def members? (q : Request) : Option (Pairs Value) := do
  match ← (← q.body.bind Utf8.decodeChars?) |> Json.readChars? Json.lenient with
  | .object members => some members
  | _ => none

/-- A body that holds no object fails the server. -/
def unread (s : Server) : Reply × Server := (.raised (.trouble (.other "ValueError") ""), s)

def bare (s : Server) (status : Int) : Reply × Server := (.response ⟨status, [], []⟩, s)

section
variable (write : Nat → Value → List UInt8) (s : Server)

def answer (status : Int) (v : Value) : Reply × Server :=
  (.response ⟨status, [("Content-Type", "application/json")], write s.written v⟩,
    { s with written := s.written + 1 })

def refuse (status : Int) (code : String) : Reply × Server :=
  s.answer write status (.object [("code", .text code)])

/-- A new report has what the body holds, the identifier of the next number and a time. -/
def add (body : Option (Pairs Value)) : Reply × Server :=
  let s' := { s with next := s.next + 1 }
  match body with
  | none => s'.unread
  | some members =>
    let cid := identifier s.next
    let report := Pairs.put "_created" (.int clock) (Pairs.put "_cid" (.text cid) members)
    answer write { s' with reports := Pairs.put cid report s.reports } 200 (.object report)

def list : Reply × Server := s.answer write 200 (.list (s.reports.map fun p => .object p.2))

/-- A report is overlaid with what the body holds. -/
def overlay (path : String) (report : Pairs Value) (body : Option (Pairs Value)) :
    Reply × Server :=
  match body with
  | none => s.unread
  | some members =>
    let report := Pairs.putAll report members
    answer write { s with reports := Pairs.put path report s.reports } 200 (.object report)

def remove (path : String) : Reply × Server :=
  bare { s with reports := s.reports.filter (·.1 ≠ path) } 204

def respond (q : Request) : Reply × Server :=
  let path := route q.url.path
  if q.headers.lookup "x-circonus-auth-token" ≠ some "test-token" then
    s.refuse write 403 "Forbidden"
  else if path = "/outlier_report" then
    if q.verb = .post then s.add write (members? q) else s.list write
  else match s.reports.lookup path with
    | none => s.refuse write 404 "ObjectError.NotFound"
    | some report => match q.verb with
      | .get => s.answer write 200 (.object report)
      | .put => s.overlay write path report (members? q)
      | .delete => s.remove path
      | .post => s.bare 405

end

/-- The server with one number drawn again and again. -/
def world (write : Nat → Value → List UInt8) (jitter : Float) (threshold : Int) : World Server where
  respond := respond write
  draw s := (jitter, s)
  clock _ := Clock.patient
  threshold := threshold

/-! Writing. -/

/-- Objects that look the same, whatever the order of their members. -/
def SameMembers (ms ns : Pairs Value) : Prop := ∀ name, ns.lookup name = ms.lookup name

/-- Reports are written as JSON, in any way that is read as the same objects. -/
structure Writes (write : Nat → Value → List UInt8) : Prop where
  object : ∀ n ms, Json.Readable Json.strict 0 (.object ms) →
    ∃ ns, Json.readBytes? (write n (.object ms)) = some (.object ns) ∧ SameMembers ms ns
  list : ∀ n (reports : List (Pairs Value)),
    Json.Readable Json.strict 0 (.list (reports.map .object)) →
    ∃ read : List (Pairs Value), Json.readBytes? (write n (.list (reports.map .object))) =
      some (.list (read.map .object)) ∧ List.Forall₂ SameMembers reports read

/-- Values as they are printed. -/
def printed (_ : Nat) (v : Value) : List UInt8 := Utf8.encode (Json.text v)

theorem writes_printed : Writes printed where
  object _ ms h := ⟨ms, Json.readBytes?_encode_text h, fun _ => rfl⟩
  list _ reports h :=
    ⟨reports, Json.readBytes?_encode_text h, List.forall₂_same.mpr fun _ _ _ => rfl⟩

/-! Identifiers. -/

theorem toList_identifier (n : Nat) :
    (identifier n).toList = "/outlier_report/".toList ++ (toString n).toList := String.toList_append

theorem identifier_ne_empty (n : Nat) : identifier n ≠ "" := by
  intro h
  have hl := congrArg String.toList h
  rw [toList_identifier] at hl
  cases hl

theorem identifier_injective {m n : Nat} (h : identifier m = identifier n) : m = n := by
  have hl := congrArg String.toList h
  rw [toList_identifier, toList_identifier, List.append_cancel_left_eq] at hl
  have hd : Nat.toDigits 10 m = Nat.toDigits 10 n := by
    rwa [Nat.toString_eq_repr, Nat.toString_eq_repr, Nat.toList_repr, Nat.toList_repr] at hl
  rw [← Numeral.natOf_toDigits m, hd, Numeral.natOf_toDigits]

/-! Requests. -/

/-- The base address of requests to the server. -/
def address : Url :=
  ⟨"https".toList, ⟨[], "api.example.com".toList, none⟩, "/v2/".toList, none, none⟩

/-- A client that is open at the address and has the token that the server asks for. -/
structure IsAttached (c : Client) : Prop where
  isOpen : c.isOpen = true
  base : c.base = address
  token : c.connection.token = "test-token"

theorem isAttached_of_create {connection : Connection} {debug : Bool} {c : Client}
    (hu : connection.url = "https://api.example.com/v2") (ht : connection.token = "test-token")
    (h : Client.create connection debug = .ok c) : IsAttached c := by
  have hbase : Url.readBase "https://api.example.com/v2" = .ok address := rfl
  obtain ⟨base, hread, rfl⟩ := Client.of_create h
  rw [hu, hbase] at hread
  cases hread
  exact ⟨rfl, rfl, ht⟩

def client : Client := Client.trial "https://api.example.com/v2" address

theorem create_client : Client.create client.connection false = .ok client := rfl

/-- A path from the root that stays as it is when it is put into an address. -/
def IsPath (path : String) : Prop :=
  ∃ rest, path.toList = '/' :: rest ∧ Url.IsPlain rest none ∧ '.' ∉ rest

/-- The address of a path at the server. -/
def placed (path : String) : Url := { address with path := "/v2".toList ++ path.toList }

/-- The request of an attached client. -/
def requestOf (c : Client) (verb : Verb) (path : String) (body : Option (List UInt8)) : Request :=
  ⟨verb, placed path, c.headers body.isSome, body⟩

variable {path : String} {c : Client} {verb : Verb} {body : Option (List UInt8)}

theorem target_placed {rest : List Char} (h : path.toList = '/' :: rest) :
    address.target ++ (rest ++ Url.led '?' none) = "/v2".toList ++ path.toList := by
  rw [h, Url.led, List.append_nil]
  rfl

theorem isPlain_target (h : IsPath path) :
    ∀ c ∈ "/v2".toList ++ path.toList, Url.isPlain c = true := by
  obtain ⟨rest, hp, hplain, -⟩ := h
  have hfront : ∀ c ∈ "/v2".toList ++ ['/'], Url.isPlain c = true := List.all_eq_true.mp rfl
  rw [hp]
  intro c hc
  rcases List.mem_append.mp hc with hc | hc
  · exact hfront c (List.mem_append_left _ hc)
  · rcases List.mem_cons.mp hc with rfl | hc
    · rfl
    · exact hplain.path c hc

theorem not_mem_target (h : IsPath path) : '.' ∉ "/v2".toList ++ path.toList := by
  obtain ⟨rest, hp, -, hdot⟩ := h
  have hfront : '.' ∉ "/v2".toList ++ ['/'] := by decide
  rw [hp]
  intro hc
  rcases List.mem_append.mp hc with hc | hc
  · exact hfront (List.mem_append_left _ hc)
  · rcases List.mem_cons.mp hc with hc | hc
    · cases hc
    · exact hdot hc

theorem withTarget_address (h : IsPath path) :
    address.withTarget ("/v2".toList ++ path.toList) =
      if Url.longest < path.length + 3 then .error (.longPart "path") else .ok (placed path) := by
  have hplain := isPlain_target h
  have hno : '?' ∉ "/v2".toList ++ path.toList := Url.not_mem_of_isPlain hplain (by decide)
  have hlen : ("/v2".toList ++ path.toList).length = path.length + 3 := by
    rw [List.length_append, Nat.add_comm]
    rfl
  have hmake : Url.make "https".toList "api.example.com".toList ("/v2".toList ++ path.toList) none
      none = .ok (placed path) := by
    have ha : Url.readAuthority "https".toList "api.example.com".toList =
        .ok ⟨[], "api.example.com".toList, none⟩ := rfl
    simp only [Url.make, ha, bind, Except.bind, Url.escape_path hplain,
      Url.resolve_eq_self (not_mem_target h)]
    rfl
  have hscheme : Url.partDefect? "scheme" "https".toList = none := rfl
  have hauthority : Url.partDefect? "authority" "api.example.com".toList = none := rfl
  have hempty (name : String) : Url.partDefect? name [] = none := rfl
  have hpath := Url.partDefect?_of_isPlain hplain "path"
  rw [hlen] at hpath
  have hremake : address.withTarget ("/v2".toList ++ path.toList) =
      Url.remake "https".toList "api.example.com".toList ("/v2".toList ++ path.toList) none
        none := by
    unfold Url.withTarget
    rw [Url.cut_of_not_mem hno]
    rfl
  rw [hremake, Url.remake]
  simp only [List.findSome?_cons, hscheme, hauthority, hpath, hempty, Option.getD_none,
    List.findSome?_nil, hmake]
  by_cases hlong : Url.longest < path.length + 3
  · simp only [if_pos hlong]
  · simp only [if_neg hlong]

/-- A path is asked for at the address of the server, unless that is too long. -/
theorem join_address (h : IsPath path) :
    address.join path = if Url.longest < path.length then .error .tooLong
      else if Url.longest < path.length + 3 then .error (.longPart "path")
      else .ok (placed path) := by
  have hwith := withTarget_address h
  obtain ⟨rest, hp, hplain, -⟩ := h
  have hp' : path.toList = '/' :: rest ++ Url.led '?' none := by
    rw [hp, Url.led, List.append_nil]
  have hall : ∀ c ∈ path.toList, Url.isPlain c = true := by
    rw [hp]
    intro c hc
    rcases List.mem_cons.mp hc with rfl | hc
    · rfl
    · exact hplain.path c hc
  have hdefect := Url.defect?_of_isPlain hall
  rw [String.length_toList] at hdefect
  by_cases hlong : Url.longest < path.length
  · rw [if_pos hlong] at hdefect ⊢
    simp [Url.join, Url.read, Url.readChars, hdefect, bind, Except.bind]
  · rw [if_neg hlong] at hdefect ⊢
    rw [Url.join_path hplain hp' hdefect, target_placed hp, hwith]

/-- How long a path may be for the address of the server to have room for it. -/
def HasRoom (path : String) : Prop := path.length + 3 ≤ Url.longest

theorem checkHost_placed (path : String) : Client.checkHost (placed path) = .ok () := by
  have haddress : Client.checkHost address = .ok () := rfl
  have hsame : (placed path).authority = address.authority := rfl
  rw [← haddress]
  simp only [Client.checkHost, Redirect.hostOf, Redirect.checkName, Url.hostName, hsame]

theorem request_of_hasRoom (hc : IsAttached c) (h : IsPath path) (hr : HasRoom path) :
    c.request verb path body = .ok (requestOf c verb path body) := by
  have hjoin := join_address h
  rw [if_neg (by unfold HasRoom at hr; omega), if_neg (by unfold HasRoom at hr; omega)] at hjoin
  simp [Client.request, hc.base, hjoin, checkHost_placed, hc.isOpen, bind, Except.bind, requestOf,
    pure, Except.pure]

theorem request_of_not_hasRoom (hc : IsAttached c) (h : IsPath path) (hr : ¬ HasRoom path) :
    ∃ d, c.request verb path body = .error (Redirect.troubleOf d) := by
  have hjoin := join_address h
  unfold HasRoom at hr
  by_cases hlong : Url.longest < path.length
  · rw [if_pos hlong] at hjoin
    exact ⟨_, by simp [Client.request, hc.base, hjoin, bind, Except.bind]; rfl⟩
  · rw [if_neg hlong, if_pos (by omega)] at hjoin
    exact ⟨_, by simp [Client.request, hc.base, hjoin, bind, Except.bind]; rfl⟩

theorem hasType_requestOf : (requestOf c verb path body).url.hasType = true := rfl

theorem route_requestOf : route (requestOf c verb path body).url.path = path := by
  have hfront : "/v2".toList.isPrefixOf ("/v2".toList ++ path.toList) = true :=
    List.isPrefixOf_iff_prefix.mpr (List.prefix_append _ _)
  have hdrop : ("/v2".toList ++ path.toList).drop 3 = path.toList := rfl
  rw [route, requestOf, placed, if_pos hfront, hdrop, String.ofList_toList]

/-! What the server makes of a request of an attached client. -/

theorem respond_requestOf (hc : IsAttached c) (write : Nat → Value → List UInt8) (s : Server) :
    respond write s (requestOf c verb path body) =
      if path = "/outlier_report" then
        if verb = .post then s.add write (members? (requestOf c verb path body)) else s.list write
      else match s.reports.lookup path with
        | none => s.refuse write 404 "ObjectError.NotFound"
        | some report => match verb with
          | .get => s.answer write 200 (.object report)
          | .put => s.overlay write path report (members? (requestOf c verb path body))
          | .delete => s.remove path
          | .post => s.bare 405 := by
  have htoken : (requestOf c verb path body).headers.lookup "x-circonus-auth-token" =
      some "test-token" := congrArg some hc.token
  unfold respond
  rw [route_requestOf]
  simp only [htoken, ne_eq, not_true_eq_false, if_false]
  rfl

theorem respond_post (hc : IsAttached c) (write : Nat → Value → List UInt8) (s : Server)
    (body : Option (List UInt8)) :
    respond write s (requestOf c .post "/outlier_report" body) =
      s.add write (members? (requestOf c .post "/outlier_report" body)) := by
  rw [respond_requestOf hc, if_pos rfl, if_pos rfl]

theorem respond_get_all (hc : IsAttached c) (write : Nat → Value → List UInt8) (s : Server) :
    respond write s (requestOf c .get "/outlier_report" none) = s.list write := by
  rw [respond_requestOf hc, if_pos rfl, if_neg nofun]

/-! Responses. -/

theorem isPlain_answer {status : Int} (h : status ∉ Redirect.statuses) (content : List UInt8) :
    Response.IsPlain ⟨status, [("Content-Type", "application/json")], content⟩ where
  ascii := rfl
  packed := rfl
  charset := by
    have hvalue : Header.value? [("Content-Type", "application/json")] "content-type" =
        some "application/json" := by decide
    intro t ht
    obtain rfl : "application/json" = t := Option.some.inj (hvalue.symm.trans ht)
    rfl
  location := if_neg (by simpa using h)

theorem isPlain_bare {status : Int} (h : status ∉ Redirect.statuses) :
    Response.IsPlain ⟨status, [], []⟩ where
  ascii := rfl
  packed := rfl
  charset := nofun
  location := if_neg (by simpa using h)

end Server
end Outlier

import Outlier.Proofs.Exchange.Closing
import Outlier.Proofs.Resource.Alike
import Outlier.Proofs.Resource.Verdict

/-! Closing a client. It may be closed by a call or by leaving a block of work, on its own or as the
client of a facade, and whatever is asked of it afterwards ends at once. -/
namespace Outlier

/-- A row for debugging. -/
def Event.IsDebug (e : Event) : Prop :=
  ∃ row : Row, e = .logged row ∧ row.level = Severity.debug.name

variable {σ : Type} {w : World σ} {c d : Client} {s t : σ} {r : Resource}

theorem World.isDebug_noted (logger message : String) :
    ∀ e ∈ w.noted logger .debug message, e.IsDebug := by
  intro e he
  unfold noted at he
  split at he
  · exact ⟨_, List.mem_singleton.mp he, rfl⟩
  · cases he

theorem Client.isDebug_openingEvents (verb : Verb) (path : String) (body : Option (List UInt8)) :
    ∀ e ∈ openingEvents c w verb path body, e.IsDebug := by
  intro e he
  obtain ⟨message, rfl⟩ := isNote_openingEvents c w verb path body e he
  exact ⟨_, rfl, rfl⟩

theorem Plan.isDebug_openingEvents (p : Plan) : ∀ e ∈ p.openingEvents c w, e.IsDebug := by
  intro e he
  unfold openingEvents at he
  split at he
  · unfold traceEvents at he
    split at he
    · exact World.isDebug_noted _ _ e he
    · cases he
  · cases he

/-! One call. -/

/-- The request that a call on the client itself makes. -/
def Call.request? : Call → Option (Verb × String × Option (List UInt8))
  | .get path => some (.get, path, none)
  | .post path content => some (.post, path, some content)
  | .put path content => some (.put, path, some content)
  | .deletePath path => some (.delete, path, none)
  | _ => none

/-- What a closed client makes of a call. Arguments that do not pass the checks are refused for what
is wrong with them, and all other requests because the client is closed. -/
inductive Declined (c : Client) (r : Resource) : Call → Except Failure Answer → Prop
  | request {call : Call} {verb : Verb} {path : String} {body : Option (List UInt8)}
    (h : call.request? = some (verb, path, body)) : Declined c r call (.error (c.refusal path))
  | unchecked {op : Operation} {f : Failure} (h : op.plan r = .error f) :
    Declined c r op.call (.error f)
  | checked {op : Operation} {p : Plan} (h : op.plan r = .ok p) :
    Declined c r op.call (.error (c.refusal p.path))
  | normalize (cid : Value) : Declined c r (.normalize cid) (.text <$> r.normalize cid)
  | baseUrl : Declined c r .baseUrl (.ok (.text c.connection.url))
  | close : Declined c r .close (.ok .nothing)
  | scope : Declined c r .scope (.ok .done)

theorem Declined.of_close {call : Call} {result : Except Failure Answer}
    (h : Declined c.close r call result) : Declined c r call result := by
  cases h with
  | request h => exact .request h
  | unchecked h => exact .unchecked h
  | checked h => exact .checked h
  | normalize cid => exact .normalize cid
  | baseUrl => exact .baseUrl
  | close => exact .close
  | scope => exact .scope

/-- A call that leaves the world as it is and comes to what a closed client makes of it. -/
structure IsIdle (c : Client) (s : σ) (e : Errand) (o : Outcome σ Answer) : Prop where
  state : o.state = s
  events : ∀ x ∈ o.events, x.IsDebug
  result : Declined c e.resource e.call o.result

theorem Plan.run_of_closed (hc : c.isOpen = false) (p : Plan) :
    p.run r c w s = ⟨p.openingEvents c w ++ Client.openingEvents c w p.verb p.path p.content, s,
      .error (c.refusal p.path)⟩ :=
  run_of_guarded_error
    (Resource.guarded_of_other (Client.isForeign_refusal c p.path) (Client.exchange_of_closed hc))

/-- A call that does nothing. -/
theorem isIdle_of_declined {call : Call} {result : Except Failure Answer}
    (h : Declined c r call result) : IsIdle c s ⟨r, call⟩ ⟨[], s, result⟩ :=
  ⟨rfl, List.forall_mem_nil _, h⟩

namespace Call

theorem isIdle_exchange (hc : c.isOpen = false) {call : Call} {verb : Verb} {path : String}
    {body : Option (List UInt8)} (hr : call.request? = some (verb, path, body))
    (hp : call.perform r c = (Answer.body <$> c.exchange verb path body : Activity σ Answer)) :
    IsIdle c s ⟨r, call⟩ (call.perform r c w s) := by
  rw [hp, Activity.map_of_error (Client.exchange_of_closed hc)]
  exact ⟨rfl, Client.isDebug_openingEvents verb path body, .request hr⟩

theorem isIdle_operation (hc : c.isOpen = false) (op : Operation) :
    IsIdle c s ⟨r, op.call⟩ (op.call.perform r c w s) := by
  rw [Operation.perform_eq]
  cases hp : op.plan r with
  | error f => exact isIdle_of_declined (.unchecked hp)
  | ok p =>
    rw [Activity.ofExcept_ok_bind, Plan.run_of_closed hc]
    refine ⟨rfl, fun x hx => ?_, .checked hp⟩
    rcases List.mem_append.mp hx with hx | hx
    · exact p.isDebug_openingEvents x hx
    · exact Client.isDebug_openingEvents p.verb p.path p.content x hx

/-- No call on a closed client gets any further than its checks. -/
theorem isIdle_perform (hc : c.isOpen = false) (call : Call) :
    IsIdle c s ⟨r, call⟩ (call.perform r c w s) := by
  cases call with
  | get path => exact isIdle_exchange hc rfl rfl
  | post path content => exact isIdle_exchange hc rfl rfl
  | put path content => exact isIdle_exchange hc rfl rfl
  | deletePath path => exact isIdle_exchange hc rfl rfl
  | baseUrl => exact isIdle_of_declined .baseUrl
  | close => exact isIdle_of_declined .close
  | scope => exact isIdle_of_declined .scope
  | normalize cid =>
    rw [perform, Operation.map_ofExcept, Activity.ofExcept_apply]
    exact isIdle_of_declined (.normalize cid)
  | fetch cid => exact isIdle_operation hc (.fetch cid)
  | fetchAll => exact isIdle_operation hc .fetchAll
  | create record => exact isIdle_operation hc (.create record)
  | update record => exact isIdle_operation hc (.update record)
  | delete record => exact isIdle_operation hc (.delete record)
  | deleteByCid cid => exact isIdle_operation hc (.deleteByCid cid)
  | search query filters => exact isIdle_operation hc (.search query filters)

theorem after_of_closed (hc : c.isOpen = false) (call : Call) : call.after c = c := by
  unfold after
  split
  · exact Client.close_of_closed hc
  · rfl

theorem after_eq (call : Call) (c : Client) : call.after c = c ∨ call.after c = c.close := by
  unfold after
  split
  · exact .inr rfl
  · exact .inl rfl

end Call

/-! Work. -/

/-- What is done with a client. A facade has nothing of its own but its client and the resource over
it, so that a block of either is one of the client. A block is entered without further ado. -/
inductive Work where
  | errand (e : Errand)
  | block (body : List Work)
  | attempt (body : List Work)

/-- What happens in the course of work: a call and what comes of it, or a block is left. -/
inductive Moment (σ : Type) where
  | call (e : Errand) (o : Outcome σ Answer)
  | left (s : σ)

namespace Moment

def closes : Moment σ → Bool
  | .call e _ => e.call.closes
  | .left _ => true

/-- The state of the world afterwards. -/
def state : Moment σ → σ
  | .call _ o => o.state
  | .left s => s

/-- Nothing happens beyond what a closed client lets happen. -/
def IsIdle (c : Client) (s : σ) : Moment σ → Prop
  | .call e o => Outlier.IsIdle c s e o
  | .left t => t = s

end Moment

/-- How work goes: all that happens, what is left in the end, and the failure that ended it. -/
structure Course (σ : Type) where
  trace : List (Moment σ)
  client : Client
  state : σ
  failure : Option Failure

namespace Work

/-- A failure ends the work it occurs in. Leaving a block closes the client, whatever the reason,
and the failure goes on from there; an attempt is where it is put up with. -/
def run (w : World σ) (c : Client) (s : σ) : Work → Course σ
  | .errand e =>
    let o := e.call.perform e.resource c w s
    ⟨[.call e o], e.call.after c, o.state, match o.result with
      | .ok _ => none
      | .error f => some f⟩
  | .block body =>
    let x := runAll w c s body
    { x with trace := x.trace ++ [.left x.state], client := x.client.close }
  | .attempt body => { runAll w c s body with failure := none }
where
  runAll (w : World σ) (c : Client) (s : σ) : List Work → Course σ
    | [] => ⟨[], c, s, none⟩
    | work :: works =>
      let x := run w c s work
      match x.failure with
      | some _ => x
      | none =>
        let y := runAll w x.client x.state works
        { y with trace := x.trace ++ y.trace }

end Work

/-! How clients and worlds go through the moments of a trace. -/

/-- One moment after another: a call changes the client as calls do, and who leaves a block closes
it. -/
inductive Flows (w : World σ) : Client → σ → List (Moment σ) → Client → σ → Prop
  | refl (c : Client) (s : σ) : Flows w c s [] c s
  | call {c d : Client} {s t : σ} {ms : List (Moment σ)} (e : Errand)
    (h : Flows w (e.call.after c) (e.call.perform e.resource c w s).state ms d t) :
    Flows w c s (.call e (e.call.perform e.resource c w s) :: ms) d t
  | left {c d : Client} {s t : σ} {ms : List (Moment σ)} (h : Flows w c.close s ms d t) :
    Flows w c s (.left s :: ms) d t

namespace Flows
variable {ms ns : List (Moment σ)} {d' : Client} {t' : σ}

theorem trans (h : Flows w c s ms d t) (h' : Flows w d t ns d' t') :
    Flows w c s (ms ++ ns) d' t' := by
  induction h with
  | refl c s => exact h'
  | call e _ ih => exact .call e (ih h')
  | left _ ih => exact .left (ih h')

/-- A closed client stays as it is, and so does the world. -/
theorem of_closed (h : Flows w c s ms d t) (hc : c.isOpen = false) :
    d = c ∧ t = s ∧ ∀ m ∈ ms, m.IsIdle c s := by
  induction h with
  | refl c s => exact ⟨rfl, rfl, List.forall_mem_nil _⟩
  | @call c d s t ms e _ ih =>
    have hidle : IsIdle c s e (e.call.perform e.resource c w s) := Call.isIdle_perform hc e.call
    rw [Call.after_of_closed hc, hidle.state] at ih
    obtain ⟨hd, ht, hms⟩ := ih hc
    exact ⟨hd, ht, List.forall_mem_cons.mpr ⟨hidle, hms⟩⟩
  | @left c d s t ms _ ih =>
    rw [Client.close_of_closed hc] at ih
    obtain ⟨hd, ht, hms⟩ := ih hc
    exact ⟨hd, ht, List.forall_mem_cons.mpr ⟨rfl, hms⟩⟩

end Flows

theorem Moment.IsIdle.of_close {m : Moment σ} (h : m.IsIdle c.close s) : m.IsIdle c s := by
  cases m with
  | call e o => exact ⟨h.state, h.events, h.result.of_close⟩
  | left t => exact h

/-- What comes after a moment that closes a client is idle. -/
theorem Flows.pairwise {ms : List (Moment σ)} (h : Flows w c s ms d t) :
    ms.Pairwise fun a b => a.closes = true → b.IsIdle c a.state := by
  induction h with
  | refl c s => exact .nil
  | @call c d s t ms e h ih =>
    refine .cons (fun b hb hcloses => ?_) (ih.imp fun hab hcloses => ?_)
    · have hafter : e.call.after c = c.close := if_pos hcloses
      rw [hafter] at h
      exact ((h.of_closed rfl).2.2 b hb).of_close
    · rcases e.call.after_eq c with hafter | hafter
      · exact hafter ▸ hab hcloses
      · exact (hafter ▸ hab hcloses : Moment.IsIdle c.close _ _).of_close
  | @left c d s t ms h ih =>
    refine .cons (fun b hb _ => ((h.of_closed rfl).2.2 b hb).of_close) ?_
    exact ih.imp fun hab hcloses => (hab hcloses).of_close

/-- After a moment that closes a client it is closed for good, and nothing moves the world. -/
theorem Flows.ends_closed {ms : List (Moment σ)} (h : Flows w c s ms d t) :
    ∀ a ∈ ms, a.closes = true → d.isOpen = false ∧ t = a.state := by
  induction h with
  | refl c s => exact List.forall_mem_nil _
  | @call c d s t ms e h ih =>
    refine List.forall_mem_cons.mpr ⟨fun hcloses => ?_, ih⟩
    have hafter : e.call.after c = c.close := if_pos hcloses
    rw [hafter] at h
    obtain ⟨rfl, rfl, -⟩ := h.of_closed rfl
    exact ⟨rfl, rfl⟩
  | @left c d s t ms h ih =>
    refine List.forall_mem_cons.mpr ⟨fun _ => ?_, ih⟩
    obtain ⟨rfl, rfl, -⟩ := h.of_closed rfl
    exact ⟨rfl, rfl⟩

namespace Work

mutual

theorem flows_run (work : Work) (c : Client) (s : σ) :
    Flows w c s (run w c s work).trace (run w c s work).client (run w c s work).state := by
  cases work with
  | errand e => exact .call e (.refl _ _)
  | block body => exact (flows_runAll body c s).trans (.left (.refl _ _))
  | attempt body => exact flows_runAll body c s

theorem flows_runAll (works : List Work) (c : Client) (s : σ) :
    Flows w c s (run.runAll w c s works).trace (run.runAll w c s works).client
      (run.runAll w c s works).state := by
  cases works with
  | nil => exact .refl c s
  | cons work works =>
    have hfirst := flows_run work c s
    rw [run.runAll]
    cases hf : (run w c s work).failure with
    | some f => exact hfirst
    | none => exact hfirst.trans (flows_runAll works _ _)

end

/-- Closing a client is final, in all work on it. Once it is closed by a call, or a block is left,
through a failure or not, every later call comes to what its checks make of it or is refused before
anything is sent, without a wait, and neither a block that is entered nor anything else opens the
client again. -/
theorem closing_is_final (works : List Work) (c : Client) (w : World σ) (s : σ) :
    let course := run.runAll w c s works
    (course.trace.Pairwise fun a b => a.closes = true → b.IsIdle c a.state) ∧
      ∀ a ∈ course.trace, a.closes = true →
        course.client.isOpen = false ∧ course.state = a.state :=
  ⟨(flows_runAll works c s).pairwise, (flows_runAll works c s).ends_closed⟩

/-- A block that an invalid identifier ends, a block that is entered afterwards, and a call with no
identifier. -/
theorem closing_is_final_reentered :
    let report (call : Call) : Work := .errand ⟨.outlierReport, call⟩
    let works := [.attempt [.block [report (.fetch (.text "x")), report .fetchAll]],
      .attempt [.block [report (.fetch (.text "1"))]], report (.deleteByCid .null)]
    let course := run.runAll (Script.world 0 0) Client.sample [.response ⟨200, [], []⟩] works
    course.trace.map Moment.closes = [false, true, false, true, false] ∧
      (course.trace.Pairwise fun a b => a.closes = true → b.IsIdle Client.sample a.state) ∧
      course.client.isOpen = false := by
  intro report works course
  have hmap : course.trace.map Moment.closes = [false, true, false, true, false] := by
    decide +kernel
  have hfinal := closing_is_final works Client.sample (Script.world 0 0) [.response ⟨200, [], []⟩]
  have hmem : true ∈ course.trace.map Moment.closes := by
    rw [hmap]
    decide
  obtain ⟨a, ha, hcloses⟩ := List.mem_map.mp hmem
  exact ⟨hmap, hfinal.1, (hfinal.2 a ha hcloses).1⟩

/-- A path that is no address is refused for that, by a closed client too. -/
theorem closing_not_named :
    let works := [Work.errand ⟨.outlierReport, .close⟩, .errand ⟨.outlierReport, .get "/a\x01"⟩]
    let course := run.runAll (Script.world 0 0) Client.sample [.response ⟨200, [], []⟩] works
    course.trace.map Moment.closes = [true, false] ∧ course.client.isOpen = false ∧
      ∃ m, course.failure = some (.trouble .invalidUrl m) := by
  intro works course
  have hd : Url.defect? "/a\x01".toList = some (.unprintable '\x01' 2) := by decide
  have hget : (Call.get "/a\x01").perform .outlierReport Client.sample.close (Script.world 0 0)
      [.response ⟨200, [], []⟩] = ⟨_, _, .error (Redirect.troubleOf (.unprintable '\x01' 2))⟩ :=
    Activity.map_of_error (Client.exchange_refused (Client.request_of_defect hd))
  have hclose : Call.close.perform .outlierReport Client.sample (Script.world 0 0)
      [.response ⟨200, [], []⟩] = ⟨[], [.response ⟨200, [], []⟩], .ok .nothing⟩ := rfl
  have hafter : Call.close.after Client.sample = Client.sample.close := rfl
  refine ⟨by decide +kernel, by decide +kernel, (Url.Defect.unprintable '\x01' 2).message, ?_⟩
  simp only [course, works, run.runAll, run, hclose, hafter, hget]
  rfl

end Work
end Outlier

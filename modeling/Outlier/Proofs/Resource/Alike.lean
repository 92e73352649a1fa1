import Outlier.Proofs.Exchange.Alike
import Outlier.Proofs.Resource.Plan

/-! Calls through clients that look alike, one after another and on any resources. -/
namespace Outlier

variable {σ : Type} {w : World σ} {v u : Sight} {c d : Client} {r : Resource}

namespace Resource
variable {α : Type} {x y : Activity σ α} {context operation : String}

theorem alike_requestFault (h : Agree v u) (f : Fault) (cause : Option Failure) :
    (r.requestFault context operation f cause : Activity σ α).Alike w v u
      (r.requestFault context operation f cause) := by
  have hrow (message : String) (details : Pairs Value) :
      (Activity.noteWith journal .error message details : Activity σ Unit).Alike w v u
        (Activity.noteWith journal .error message details) :=
    Activity.alike_noteWith fun row hr =>
      h _ (Row.showsBody_of_level (by rw [hr]; decide))
  unfold requestFault
  dsimp only
  split
  · exact Activity.alike_bind (Activity.alike_fail _) fun _ =>
      Activity.alike_bind (hrow _ _) fun _ => Activity.alike_fail _
  · exact Activity.alike_bind (hrow _ _) fun _ => Activity.alike_fail _

theorem alike_guarded (h : Agree v u) (hx : x.Alike w v u y) :
    (r.guarded context operation x).Alike w v u (r.guarded context operation y) := by
  unfold guarded
  refine Activity.alike_bind (Activity.alike_attempt hx) fun a => ?_
  split
  · exact Activity.alike_pure _
  · split
    · exact alike_requestFault h _ _
    · exact Activity.alike_fail _
  · exact Activity.alike_fail _

theorem alike_trace (h : c.Alike w v u d) (hp : (journal, operation) ∈ Row.bodyPlaces)
    (what : String) (body : List UInt8) :
    (trace c operation what body : Activity σ Unit).Alike w v u (trace d operation what body) := by
  have htraced := h.traced hp (what ++ " JSON: " ++ Excerpt.ofBody body)
    (Activity.alike_pure (w := w) (v := v) (u := u) ())
  simpa [trace, place, String.append_assoc] using htraced

end Resource

namespace Plan
variable {p : Plan}

/-- The bodies that a plan notes are noted in places that show bodies. -/
structure IsTraced (p : Plan) : Prop where
  sent : p.content.isSome → (Resource.journal, p.operation) ∈ Row.bodyPlaces
  received : p.expected = .fetched → (Resource.journal, p.operation) ∈ Row.bodyPlaces

theorem isTraced_of_planned {op : Operation} (h : Planned r op p) : p.IsTraced := by
  cases h <;> constructor <;> simp [all, deletion, Row.bodyPlaces]

theorem alike_opening (h : c.Alike w v u d) (hp : p.IsTraced) :
    (p.opening c : Activity σ Unit).Alike w v u (p.opening d) := by
  have hs := hp.sent
  unfold opening
  cases hc : p.content with
  | none => exact Activity.alike_pure ()
  | some content => exact Resource.alike_trace h (hs (by rw [hc]; rfl)) _ _

theorem alike_closing (h : c.Alike w v u d) (hp : p.IsTraced) (body : List UInt8) :
    (p.closing c body : Activity σ Unit).Alike w v u (p.closing d body) := by
  have hr := hp.received
  unfold closing
  cases he : p.expected with
  | fetched => exact Resource.alike_trace h (hr he) _ _
  | nothing => exact Activity.alike_note_of_agree h.agree (by decide) _
  | record | records => exact Activity.alike_pure ()

theorem alike_run (h : c.Alike w v u d) (hp : p.IsTraced) :
    (p.run r c : Activity σ Answer).Alike w v u (p.run r d) := by
  refine Activity.alike_bind (alike_opening h hp) fun _ => ?_
  refine Activity.alike_bind (Resource.alike_guarded h.agree (h.exchange _ _ _)) fun body => ?_
  exact Activity.alike_bind (alike_closing h hp body) fun _ => Activity.alike_ofExcept _

end Plan

theorem Operation.alike_perform (h : c.Alike w v u d) (op : Operation) :
    (op.call.perform r c : Activity σ Answer).Alike w v u (op.call.perform r d) := by
  rw [perform_eq, perform_eq]
  cases hp : op.plan r with
  | error f => exact Activity.alike_fail f
  | ok p => exact Plan.alike_run h (Plan.isTraced_of_planned (planned_of_plan hp))

namespace Call

theorem alike_perform (h : c.Alike w v u d) (call : Call) :
    (call.perform r c : Activity σ Answer).Alike w v u (call.perform r d) := by
  cases call with
  | get path => exact Activity.alike_map (h.exchange .get path none) _
  | post path content => exact Activity.alike_map (h.exchange .post path (some content)) _
  | put path content => exact Activity.alike_map (h.exchange .put path (some content)) _
  | deletePath path => exact Activity.alike_map (h.exchange .delete path none) _
  | baseUrl =>
    rw [perform, perform, h.url]
    exact Activity.alike_pure _
  | close | scope => exact Activity.alike_pure _
  | normalize cid => exact Activity.alike_map (Activity.alike_ofExcept _) _
  | fetch cid => exact Operation.alike_perform h (.fetch cid)
  | fetchAll => exact Operation.alike_perform h .fetchAll
  | create record => exact Operation.alike_perform h (.create record)
  | update record => exact Operation.alike_perform h (.update record)
  | delete record => exact Operation.alike_perform h (.delete record)
  | deleteByCid cid => exact Operation.alike_perform h (.deleteByCid cid)
  | search query filters => exact Operation.alike_perform h (.search query filters)

theorem alike_after (h : c.Alike w v u d) (call : Call) :
    (call.after c).Alike w v u (call.after d) := by
  unfold after
  split
  · exact h.closed
  · exact h

end Call

/-- A call on a client, or through it on a resource. -/
structure Errand where
  resource : Resource
  call : Call

namespace Errand

/-- The outcomes of errands on one client, in a world that keeps its state from one to the next. -/
def run (w : World σ) : List Errand → Client → σ → List (Outcome σ Answer)
  | [], _, _ => []
  | e :: es, c, s =>
    let o := e.call.perform e.resource c w s
    o :: run w es (e.call.after c) o.state

theorem alike_run (h : c.Alike w v u d) (es : List Errand) (s : σ) :
    (run w es c s).map (Outcome.seen v) = (run w es d s).map (Outcome.seen u) := by
  induction es generalizing c d s with
  | nil => rfl
  | cons e es ih =>
    have hstep := Call.alike_perform h e.call (r := e.resource) s
    have hstate : (e.call.perform e.resource c w s).state =
        (e.call.perform e.resource d w s).state := (Outcome.mk.inj hstep).2.1
    rw [run, run, List.map_cons, List.map_cons, hstep, hstate, ih (Call.alike_after h e.call)]

end Errand
end Outlier

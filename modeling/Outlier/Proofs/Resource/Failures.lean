import Outlier.Proofs.Exchange.Failures
import Outlier.Proofs.Resource.Verdict

/-! What operations may fail with once their arguments have passed the checks. -/
namespace Outlier

/-- A fault that the checks of arguments refuse them with. -/
def Failure.IsRefusal : Failure → Prop
  | .fault f _ => f.kind = .invalidCid ∨ f.kind = .invalidConfig
  | _ => False

namespace Resource
variable {σ α : Type} {r : Resource} {context operation : String} {f : Fault}
  {cause : Option Failure} {w : World σ} {s : σ} {x : Activity σ α} {e : Failure}

theorem requestFault_error
    (h : ((r.requestFault context operation f cause : Activity σ α) w s).result = .error e) :
    ¬ e.IsRefusal := by
  unfold requestFault at h
  by_cases hl : (f.details.lookup "resource").isSome = true
  · simp only [hl, if_true] at h
    cases h
    exact id
  · simp only [hl] at h
    rcases Activity.error_of_bind h with h | ⟨_, -, h⟩
    · obtain ⟨m, rfl⟩ := Activity.noteWith_error h
      exact id
    · cases h
      rintro (hk | hk) <;> cases hk

theorem guarded_error (hx : ∀ e, (x w s).result = .error e → Client.IsForeign e ∨ Client.IsOwn e)
    (h : (r.guarded context operation x w s).result = .error e) : ¬ e.IsRefusal := by
  rw [guarded, Activity.attempt_bind] at h
  cases hr : (x w s).result with
  | ok a =>
    rw [hr] at h
    cases h
  | error g =>
    rw [hr] at h
    rcases hx g hr with hf | ⟨f, cause, rfl, hk⟩
    · cases g with
      | fault f cause => exact absurd rfl (hf f cause)
      | _ => cases h; exact id
    · have hapi : f.kind.lineage.contains .api = true := by
        rcases hk with hk | hk <;> rw [hk] <;> rfl
      simp only [hapi, if_true] at h
      exact requestFault_error h

end Resource

namespace Plan
variable {σ : Type} {r : Resource} {p : Plan} {c : Client} {w : World σ} {s : σ} {e : Failure}

/-- Once the request of an operation is settled, its arguments are not refused any more. -/
theorem run_error (hw : ∀ q, (c.lastReply w q s).IsServed)
    (h : (p.run r c w s).result = .error e) : ¬ e.IsRefusal := by
  rw [run, Activity.bind_of_ok opening_apply] at h
  rcases Activity.error_of_bind h with h | ⟨body, -, h⟩
  · exact Resource.guarded_error (fun _ hx => Client.exchange_error hw hx) h
  · rw [Activity.bind_of_ok closing_apply, answer] at h
    cases hr : p.expected.read r.model body with
    | ok a =>
      rw [hr] at h
      cases h
    | error rejection =>
      rw [hr] at h
      cases h
      rintro (hk | hk) <;> cases hk

end Plan
end Outlier

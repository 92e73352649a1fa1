import Outlier.Proofs.Resource.Verdict

/-! Faults of the client become faults of the operation, unless a detail has a name that is not free
where they are noted. -/
namespace Outlier

namespace Resource
variable {σ α : Type} {r : Resource} {context operation : String} {f : Fault}
  {cause : Option Failure} {w : World σ} {s : σ} {threshold : Int} {details : Pairs Value}
  {name message : String}

end Resource

namespace Plan
variable {σ : Type} {r : Resource} {p : Plan} {c : Client} {w : World σ} {s : σ} {f : Fault}
  {cause : Option Failure}

theorem run_of_isFree (hk : f.kind.lineage.contains .api = true)
    (hf : ∀ n ∈ f.details.names, Resource.IsFree w.threshold n)
    (h : (c.exchange p.verb p.path p.content w s).result = .error (.fault f cause)) :
    (p.run r c w s).result =
      .error (.fault (.make (.request (.text r.name) (.text p.operation))
        (.text (Resource.requestMessage p.context f)) f.details) (some (.fault f cause))) := by
  have hguarded := Resource.guarded_fault (r := r) p.context p.operation hk (Outcome.eq_of_result h)
  rw [Resource.requestFault_of_isFree hf] at hguarded
  rw [run_of_guarded_error hguarded]

end Plan

namespace Operation
variable {σ : Type} {r : Resource} {op : Operation} {p : Plan} {c : Client} {w : World σ} {s : σ}
  {f : Fault} {cause : Option Failure}

end Operation
end Outlier

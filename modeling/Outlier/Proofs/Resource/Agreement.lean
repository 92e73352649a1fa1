import Outlier.Proofs.Resource.Identifier

/-! Full identifiers across operations: an update takes one as it is, while fetching and deleting
complete it first. -/
namespace Outlier

theorem Cid.Matches.begins_literal {lit s : List Char} {pattern : Pattern}
    (h : Matches (.literal lit :: pattern) s) : lit <+: s := by
  obtain ⟨u, v, rfl, rfl, -⟩ := h
  exact List.prefix_append _ _

namespace Resource
variable {r : Resource} {cid : Value} {path : String}

theorem checkFull_text {s : String} (h : s ≠ "") : r.checkFull (.text s) = r.accept s :=
  if_pos (bne_iff_ne.mpr h)

/-- A check takes a text that matches the pattern, and nothing if the pattern allows for it. -/
theorem of_checkFull (h : r.checkFull cid = .ok path) : Cid.Matches r.pattern path.toList ∧
    (path ≠ "" ∧ cid = .text path ∨ path = "" ∧ cid.isGiven = false) := by
  unfold checkFull at h
  split at h
  next hgiven =>
    split at h
    next s =>
      obtain ⟨rfl, hm⟩ := accept_iff.mp h
      exact ⟨hm, .inl ⟨bne_iff_ne.mp hgiven, rfl⟩⟩
    · cases h
    · cases h
  next hnone =>
    obtain ⟨rfl, hm⟩ := accept_iff.mp h
    exact ⟨hm, .inr ⟨rfl, Bool.eq_false_iff.mpr hnone⟩⟩

theorem normalize_of_not_given (h : cid.isGiven = false) :
    r.normalize cid = .error (r.refusal (some "")) :=
  if_neg (Bool.eq_false_iff.mp h)

/-- What is taken as it is stays as it is when it is completed, if it begins with the collection. -/
theorem normalize_of_checkFull_iff (h : r.checkFull cid = .ok path) :
    r.normalize cid = .ok path ↔ path ≠ "" ∧ r.collection.toList <+: path.toList := by
  obtain ⟨hm, ⟨hne, rfl⟩ | ⟨rfl, hnone⟩⟩ := of_checkFull h
  · rw [normalize_text hne, accept_iff]
    constructor
    · rintro ⟨hc, -⟩
      exact ⟨hne, hc ▸ r.prefix_complete path⟩
    · rintro ⟨-, hp⟩
      exact ⟨complete_of_isPrefix hp, hm⟩
  · rw [normalize_of_not_given hnone]
    exact ⟨nofun, fun hc => absurd rfl hc.1⟩

/-- What is taken as it is but completed to something else is refused or leads elsewhere. -/
theorem normalize_of_checkFull (h : r.checkFull cid = .ok path) (hne : r.normalize cid ≠ .ok path) :
    r.normalize cid = .error (r.refusal (some path)) ∨
      r.complete path ≠ path ∧ r.normalize cid = .ok (r.complete path) := by
  obtain ⟨-, ⟨hgiven, rfl⟩ | ⟨rfl, hnone⟩⟩ := of_checkFull h
  · by_cases hm : Cid.Matches r.pattern (r.complete path).toList
    · have hok : r.normalize (.text path) = .ok (r.complete path) := by
        rw [normalize_text hgiven]
        exact accept_iff.mpr ⟨rfl, hm⟩
      exact .inr ⟨fun hc => hne (hok.trans (congrArg Except.ok hc)), hok⟩
    · left
      rw [normalize_text hgiven, accept_error hm, refusal, if_neg hgiven]
  · exact .inl (normalize_of_not_given hnone)

end Resource

namespace Operation
variable {r : Resource} {cid : Value} {record : Record} {path : String}

/-- An operation passes its checks and asks for a path. -/
def Addresses (op : Operation) (r : Resource) (path : String) : Prop :=
  ∃ p, op.plan r = .ok p ∧ p.path = path

/-- An operation on one record by an identifier that is completed first. -/
inductive Completes : Operation → Value → Prop
  | fetch (cid : Value) : Completes (.fetch cid) cid
  | delete (record : Record) : Completes (.delete (some record)) (record.get .cid)

theorem Completes.plan_error {op : Operation} {f : Failure} (ho : Completes op cid)
    (h : r.normalize cid = .error f) : op.plan r = .error f := by
  cases ho <;> simp only [plan, Resource.require, ok_bind, h] <;> rfl

theorem Completes.addresses_iff {op : Operation} (ho : Completes op cid) :
    op.Addresses r path ↔ r.normalize cid = .ok path := by
  constructor
  · rintro ⟨p, hp, rfl⟩
    have hplanned := planned_of_plan hp
    cases ho <;> cases hplanned <;> assumption
  · intro h
    cases ho with
    | fetch => exact ⟨_, plan_of_planned (.fetch h), rfl⟩
    | delete => exact ⟨_, plan_of_planned (.delete h), rfl⟩

theorem update_puts {p : Plan} (h : r.checkFull (record.get .cid) = .ok path)
    (hp : (update (some record)).plan r = .ok p) : p.verb = .put ∧ p.path = path := by
  cases planned_of_plan hp with
  | update hcid => exact ⟨rfl, Except.ok.inj (hcid.symm.trans h)⟩

/-- All requests of an operation are for the address of its path. -/
theorem Addresses.join {σ : Type} {op : Operation} {c : Client} {w : World σ} {s : σ} {q : Request}
    (h : op.Addresses r path)
    (hq : q ∈ (op.call.perform r c w s).events.filterMap Event.request?) :
    c.base.join path = .ok q.url := by
  obtain ⟨p, hp, rfl⟩ := h
  rw [requests_of_plan hp] at hq
  cases hreq : c.request p.verb p.path p.content with
  | error f =>
    rw [Client.requests_exchange_refused hreq] at hq
    cases hq
  | ok q' =>
    obtain ⟨n, hn⟩ := Client.requests_exchange hreq (w := w) (s := s)
    rw [hn] at hq
    obtain rfl := List.eq_of_mem_replicate hq
    exact (Client.request_ok hreq).2.2

/-- The identifier that an update puts a record to leads fetching and deleting it to the same
address if it begins with the collection, as it does wherever the pattern begins so. Otherwise they
complete it to another one, which they ask for or refuse. -/
theorem full_identifiers_agree_iff (r : Resource) (record : Record) (path : String)
    (h : r.checkFull (record.get .cid) = .ok path) :
    let update := Operation.update (some record)
    let others := [fetch (record.get .cid), delete (some record)]
    (∀ p, update.plan r = .ok p → p.verb = .put ∧ p.path = path) ∧
    (∀ op ∈ others,
      (op.Addresses r path ↔ path ≠ "" ∧ r.collection.toList <+: path.toList) ∧
      (¬ op.Addresses r path → op.plan r = .error (r.refusal (some path)) ∨
        r.complete path ≠ path ∧ op.Addresses r (r.complete path)) ∧
      (op.Addresses r path → ∀ (σ : Type) (c : Client) (w : World σ) (s t : σ),
        ∀ q ∈ (op.call.perform r c w s).events.filterMap Event.request?,
        ∀ q' ∈ (update.call.perform r c w t).events.filterMap Event.request?, q.url = q'.url)) ∧
    ∀ lit rest, r.pattern = .literal lit :: rest → lit ≠ [] → r.collection.toList <+: lit →
      ∀ op ∈ others, op.Addresses r path := by
  intro update others
  have hcompletes : ∀ op ∈ others, Completes op (record.get .cid) := by
    simp only [others, List.forall_mem_cons]
    exact ⟨.fetch _, .delete record, nofun⟩
  have hiff : ∀ op ∈ others,
      (op.Addresses r path ↔ path ≠ "" ∧ r.collection.toList <+: path.toList) := fun op ho =>
    (hcompletes op ho).addresses_iff.trans (Resource.normalize_of_checkFull_iff h)
  refine ⟨fun p => update_puts h, fun op ho => ⟨hiff op ho, fun hne => ?_, ?_⟩, ?_⟩
  · have hcomplete := hcompletes op ho
    rw [hcomplete.addresses_iff] at hne ⊢
    exact (Resource.normalize_of_checkFull h hne).imp_left hcomplete.plan_error
  · intro ha σ c w s t q hq q' hq'
    have hsame : c.base.join path = .ok q'.url := by
      cases hp : update.plan r with
      | error f =>
        rw [perform_eq, hp] at hq'
        cases hq'
      | ok p => exact Addresses.join ⟨p, hp, (update_puts h hp).2⟩ hq'
    exact Except.ok.inj ((ha.join hq).symm.trans hsame)
  · intro lit rest hpattern hlit hcollection op ho
    have hprefix : lit <+: path.toList :=
      (hpattern ▸ (Resource.of_checkFull h).1 : Cid.Matches (.literal lit :: rest) _).begins_literal
    refine (hiff op ho).mpr ⟨?_, hcollection.trans hprefix⟩
    rintro rfl
    exact hlit (List.prefix_nil.mp hprefix)

/-- Check bundles, whose full identifiers may begin before their collection. -/
def checkBundle : Resource :=
  .make .resource "/check_bundle" (.optional "/v2".toList :: Cid.collectionOf "check_bundle")
    "check bundle" none

theorem full_identifiers_agree_iff_bundle :
    let record := (Record.blank .resource).set .cid (.text "/check_bundle/7")
    checkBundle.checkFull (record.get .cid) = .ok "/check_bundle/7" ∧
    ∀ op ∈ [fetch (record.get .cid), delete (some record)],
      op.Addresses checkBundle "/check_bundle/7" := by
  intro record
  have haccepts : Cid.accepts checkBundle.pattern "/check_bundle/7" = true := by decide +kernel
  have h : checkBundle.checkFull (record.get .cid) = .ok "/check_bundle/7" :=
    (Resource.checkFull_text (by decide)).trans (if_pos haccepts)
  obtain ⟨-, hothers, -⟩ := full_identifiers_agree_iff checkBundle record _ h
  exact ⟨h, fun op ho => (hothers op ho).1.mpr (by decide +kernel)⟩

/-- What comes before the collection is taken for the rest of an identifier relative to it. -/
theorem full_identifiers_apart :
    let path := "/v2/check_bundle/1"
    let record := (Record.blank .resource).set .cid (.text path)
    let refused := "/check_bundle//v2/check_bundle/1"
    ("^(/v2)?/check_bundle/[0-9]+$", checkBundle.pattern) ∈ Cid.supported ∧
    (update (some record)).Addresses checkBundle path ∧
    ∀ op ∈ [fetch (record.get .cid), delete (some record)],
      op.plan checkBundle = .error (checkBundle.invalidCid refused (some refused)) := by
  intro path record refused
  have hsupported : ("^(/v2)?/check_bundle/[0-9]+$", checkBundle.pattern) ∈ Cid.supported := by
    simp [Cid.supported, checkBundle, Resource.make]
  have haccepts : Cid.accepts checkBundle.pattern path = true := by decide +kernel
  have hcheck : checkBundle.checkFull (record.get .cid) = .ok path :=
    (Resource.checkFull_text (by decide)).trans (if_pos haccepts)
  have hrefuses : ¬ Cid.accepts checkBundle.pattern refused = true := by decide +kernel
  have hcomplete : checkBundle.complete path = refused := by decide +kernel
  have hnormalize : checkBundle.normalize (.text path) =
      .error (checkBundle.invalidCid refused (some refused)) := by
    rw [Resource.normalize_text (by decide), hcomplete]
    exact if_neg hrefuses
  refine ⟨hsupported, ⟨_, plan_of_planned (.update hcheck rfl), rfl⟩, ?_⟩
  simp only [List.forall_mem_cons]
  exact ⟨(Completes.fetch _).plan_error hnormalize,
    (Completes.delete _).plan_error hnormalize, nofun⟩

end Operation
end Outlier

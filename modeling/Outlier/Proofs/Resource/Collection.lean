import Mathlib.Data.List.Forall2
import Outlier.Proofs.Resource.Verdict

/-! Bodies of collections: their items are read as records of their own, and what is wrong with each
is told under its index. -/
namespace Outlier

namespace Record
variable {m : Model} {items : List Value} {records : List Record} {v : Value}

/-- The issues of all items, each under the index of its item. -/
def issuesOfItems (m : Model) (items : List Value) : List Issue :=
  items.zipIdx.flatMap fun p => (issuesOf (validate m p.1)).map (·.within (.index p.2))

theorem validateItems_ok (n : Nat) :
    validateItems m n items = .ok records ↔
      List.Forall₂ (fun v r => validate m v = .ok r) items records := by
  induction items generalizing n records with
  | nil => cases records <;> simp [validateItems]
  | cons v items ih =>
    rw [validateItems]
    cases hv : validate m v with
    | error is => cases records <;> simp [hv]
    | ok r =>
      cases hi : validateItems m (n + 1) items with
      | error is => cases records <;> simp [← ih (n + 1), hi]
      | ok rs => cases records <;> simp [← ih (n + 1), hi, hv]

theorem issuesOf_validateItems (n : Nat) :
    issuesOf (validateItems m n items) =
      (items.zipIdx n).flatMap fun p => (issuesOf (validate m p.1)).map (·.within (.index p.2)) := by
  induction items generalizing n with
  | nil => rfl
  | cons v items ih =>
    rw [List.zipIdx_cons, List.flatMap_cons, ← ih, validateItems]
    cases validate m v <;> cases validateItems m (n + 1) items <;> rfl

/-- A list is read as one record for each item, or else rejected with the issues of all items. -/
theorem validateItems_cases (m : Model) (items : List Value) :
    (∃ records, List.Forall₂ (fun v r => validate m v = .ok r) items records ∧
      validateItems m 0 items = .ok records) ∨
      (¬ ∃ records, List.Forall₂ (fun v r => validate m v = .ok r) items records) ∧
        validateItems m 0 items = .error (issuesOfItems m items) := by
  cases h : validateItems m 0 items with
  | ok records => exact .inl ⟨records, (validateItems_ok 0).mp h, rfl⟩
  | error is =>
    have his : is = issuesOfItems m items := by
      rw [issuesOfItems, ← issuesOf_validateItems, h]
      rfl
    refine .inr ⟨fun ⟨records, hr⟩ => ?_, congrArg Except.error his⟩
    rw [(validateItems_ok 0).mpr hr] at h
    cases h

theorem allOfBody_of_read {body : List UInt8} (h : Json.readBytes? body = some v) :
    allOfBody m body = reject (collectionTitle m) (validateAll m v) := by
  rw [allOfBody, readWith, h]

end Record

namespace Resource
variable {r : Resource}

/-- A result that is the fault of a collection with some issues, which its message counts. -/
def RejectsAll (r : Resource) (issues : List Issue) (x : Except Failure Answer) : Prop :=
  ∃ f : Fault, x = .error (.fault f (some (.rejected ⟨Record.collectionTitle r.model, issues⟩))) ∧
    f.subject = .parse (.text r.name) (.text "parse") ∧
    f.message = .text ("parsing " ++ r.plural ++ ": " ++ (toString issues.length ++
      " validation error" ++ (if issues.length = 1 then "" else "s") ++ " for " ++
        ("nullable[list[" ++ r.model.name ++ "]]")))

theorem rejectsAll_parseFault (issues : List Issue) :
    r.RejectsAll issues
      (.error (r.parseFault r.plural ⟨Record.collectionTitle r.model, issues⟩)) :=
  ⟨_, rfl, rfl, rfl⟩

/-- What a resource makes of the body of one record is what validation makes of its value. -/
theorem parseOne_of_read {body : List UInt8} {v : Value} (h : Json.readBytes? body = some v) :
    r.parseOne body =
      (Record.validate r.model v).mapError
        fun issues => r.parseFault r.name ⟨r.model.name, issues⟩ := by
  have hbody : Record.ofBody r.model body =
      Record.reject r.model.name (Record.validate r.model v) := by
    rw [Record.ofBody, Record.readWith, h]
  rw [parseOne, hbody]
  cases Record.validate r.model v <;> rfl

end Resource

namespace Plan
variable {r : Resource} {p : Plan} {body : List UInt8} {v : Value}

theorem answer_of_records (he : p.expected = .records) (hv : Json.readBytes? body = some v) :
    p.answer r body = (Record.validateAll r.model v).mapError
        (fun issues => r.parseFault r.plural ⟨Record.collectionTitle r.model, issues⟩) >>=
      fun records => .ok (.records records) := by
  rw [answer, he, Expected.read, Expected.subject, Record.allOfBody_of_read hv]
  cases Record.validateAll r.model v <;> rfl

end Plan

namespace Operation
variable {σ : Type} {r : Resource} {op : Operation} {p : Plan} {c : Client} {w : World σ} {s : σ}
  {body : List UInt8} {v : Value}

/-- Fetching all and searching read collections. -/
theorem expected_of_plan (ho : op = .fetchAll ∨ ∃ query filters, op = .search query filters)
    (hp : op.plan r = .ok p) : p.expected = .records := by
  rcases ho with rfl | ⟨query, filters, rfl⟩
  · cases planned_of_plan hp
    rfl
  · cases planned_of_plan hp <;> rfl

/-- Fetching all and searching agree with what reads one record: null and the empty list are no
records, a list is the records of its items if every item is one, and fails with the issues of all
items under their indexes if not, and all else is no list. -/
theorem records_read_one_by_one
    (ho : op = .fetchAll ∨ ∃ query filters, op = .search query filters) (hp : op.plan r = .ok p)
    (hx : (c.exchange p.verb p.path p.content w s).result = .ok body)
    (hv : Json.readBytes? body = some v) :
    let result := (op.call.perform r c w s).result
    (v = .null ∨ v = .list [] → result = .ok (.records [])) ∧
    (∀ items, v = .list items →
      (∀ records, result = .ok (.records records) ↔
        List.Forall₂ (fun u x => Record.validate r.model u = .ok x) items records) ∧
      ((¬ ∃ records, List.Forall₂ (fun u x => Record.validate r.model u = .ok x) items records) →
        r.RejectsAll (Record.issuesOfItems r.model items) result)) ∧
    (v ≠ .null → (∀ items, v ≠ .list items) → r.RejectsAll [⟨.notList, []⟩] result) ∧
    ∀ u one, Json.readBytes? one = some u → r.parseOne one =
      (Record.validate r.model u).mapError fun is => r.parseFault r.name ⟨r.model.name, is⟩ := by
  have hresult : (op.call.perform r c w s).result = p.answer r body := by
    rw [perform_of_plan hp]
    exact (Plan.run_of_concluded_ok hx).1
  dsimp only
  rw [hresult, Plan.answer_of_records (expected_of_plan ho hp) hv]
  refine ⟨?_, ?_, ?_, fun u one h => Resource.parseOne_of_read h⟩
  · rintro (rfl | rfl) <;> rfl
  · rintro items rfl
    rw [Record.validateAll]
    rcases Record.validateItems_cases r.model items with ⟨records, hall, hi⟩ | ⟨hno, hi⟩
    · rw [hi]
      refine ⟨fun others => ?_, fun hno => absurd ⟨records, hall⟩ hno⟩
      rw [← Record.validateItems_ok 0, hi, Except.ok.injEq]
      exact ⟨fun h => Answer.records.inj (Except.ok.inj h), fun h => h ▸ rfl⟩
    · rw [hi]
      refine ⟨fun others => iff_of_false nofun fun h => hno ⟨others, h⟩, fun _ => ?_⟩
      exact Resource.rejectsAll_parseFault _
  · intro hnull hlist
    have hall : Record.validateAll r.model v = .error [⟨.notList, []⟩] := by
      cases v with
      | null => exact absurd rfl hnull
      | list items => exact absurd rfl (hlist items)
      | _ => rfl
    rw [hall]
    exact Resource.rejectsAll_parseFault _

/-- A record, an object with two flaws, and what is no object. -/
theorem records_read_one_by_one_flawed :
    let body := Utf8.encode "[\x7b\x7d,\x7b\"title\":1,\"tags\":[null]\x7d,7]"
    let result := (fetchAll.call.perform .outlierReport Client.sample (Script.world 0 0)
      [.response ⟨200, [], body⟩]).result
    Resource.RejectsAll .outlierReport [⟨.notText, [.index 1, .key "tags", .index 0]⟩,
      ⟨.notText, [.index 1, .key "title"]⟩, ⟨.notRecord, [.index 2]⟩] result := by
  intro body result
  let items : List Value :=
    [.object [], .object [("title", .int 1), ("tags", .list [.null])], .int 7]
  have hx : (Client.sample.exchange .get "/outlier_report" none (Script.world 0 0)
      [.response ⟨200, [], body⟩]).result = .ok body := rfl
  have hv : Json.readBytes? body = some (.list items) := rfl
  have hno : ¬ ∃ records, List.Forall₂
      (fun u x => Record.validate .outlierReport u = .ok x) items records := by
    rintro ⟨_, h⟩
    obtain ⟨_, _, -, h, -⟩ := List.forall₂_cons_left_iff.mp h
    obtain ⟨_, _, h, -⟩ := List.forall₂_cons_left_iff.mp h
    cases h
  exact ((records_read_one_by_one (.inl rfl) rfl hx hv).2.1 items rfl).2 hno

end Operation
end Outlier

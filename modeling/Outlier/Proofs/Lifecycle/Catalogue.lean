import Outlier.Proofs.Lifecycle.Server
import Outlier.Proofs.Record.RoundTrip
import Outlier.Proofs.Resource.Safety

/-! A catalogue of reports: what calls on one come to, without requests and JSON. -/
namespace Outlier

/-- The calls by which reports come, change and go. -/
inductive Action where
  | create (record : Record)
  | fetch (cid : Option String)
  | fetchAll
  | update (record : Record)
  | delete (record : Record)
  | deleteByCid (cid : Option String)

namespace Action

def operation : Action → Operation
  | .create record => .create (some record)
  | .fetch cid => .fetch (.ofOption cid)
  | .fetchAll => .fetchAll
  | .update record => .update (some record)
  | .delete record => .delete (some record)
  | .deleteByCid cid => .deleteByCid (.ofOption cid)

def record? : Action → Option Record
  | .create record | .update record | .delete record => some record
  | _ => none

/-- Its record is validated, and JSON has room for the integers in it. -/
def IsValid (a : Action) : Prop :=
  ∀ r ∈ a.record?, Record.IsValidated .outlierReport r ∧
    ∀ f n, r.get f = .int n → Decimal.digitCount n.natAbs ≤ 4300

end Action

namespace Record

def cid? (r : Record) : Option String :=
  match r.get .cid with
  | .text t => some t
  | _ => none

/-- A record as it is once it is created under a number. -/
def created (r : Record) (n : Nat) : Record :=
  (r.normal.set .cid (.text (Server.identifier n))).set .created (.int Server.clock)

/-- A record with the fields of another one that are not empty. -/
def overlay (old new : Record) : Record :=
  { old with get := fun f => if isEmpty (new.get f) then old.get f else new.get f }

end Record

/-- What a call comes to: an answer, or what is wrong with the identifier. -/
inductive Reaction where
  | answer (a : Answer)
  | absent
  | invalid
  | tooLong

/-- Records under their identifiers in the order of creation, and the number of the next one. -/
structure Catalogue where
  next : Nat
  records : Pairs Record

namespace Catalogue

def start : Catalogue := ⟨1000, []⟩

def isNumber (s : List Char) : Bool := !s.isEmpty && s.all Char.isDigit

def isFull (cid : String) : Bool :=
  "/outlier_report/".toList.isPrefixOf cid.toList && isNumber (cid.toList.drop 16)

/-- A full identifier as it is, and that of a number. -/
def full? (cid : String) : Option String :=
  if isFull cid then some cid
  else if isNumber cid.toList then some ("/outlier_report/" ++ cid)
  else none

/-- What is done with the record that an identifier stands for, if there is one. -/
def with? (k : Catalogue) (cid : Option String) (f : String → Record → Reaction × Catalogue) :
    Reaction × Catalogue :=
  match cid with
  | none => (.invalid, k)
  | some path =>
    if Url.longest < path.length + 3 then (.tooLong, k)
    else match k.records.lookup path with
      | none => (.absent, k)
      | some r => f path r

def removed (k : Catalogue) (path : String) (_ : Record) : Reaction × Catalogue :=
  (.answer .done, { k with records := k.records.filter (·.1 ≠ path) })

def perform (k : Catalogue) : Action → Reaction × Catalogue
  | .create record =>
    let new := record.created k.next
    (.answer (.record new), ⟨k.next + 1, k.records ++ [(Server.identifier k.next, new)]⟩)
  | .fetch cid => k.with? (cid.bind full?) fun _ r => (.answer (.record r), k)
  | .fetchAll => (.answer (.records (k.records.map (·.2))), k)
  | .update record => k.with? (record.cid?.filter isFull) fun path old =>
    let new := old.overlay record
    (.answer (.record new), { k with records := Pairs.put path new k.records })
  | .delete record => k.with? (record.cid?.bind full?) k.removed
  | .deleteByCid cid => k.with? (cid.bind full?) k.removed

/-- What calls come to one after another, each with the catalogue that it leaves behind. -/
def run (k : Catalogue) : List Action → List (Reaction × Catalogue)
  | [] => []
  | a :: as =>
    let x := k.perform a
    x :: x.2.run as

end Catalogue

/-- The results that a reaction shows as. What is absent is refused with status 404, and what is too
long for an address is never sent. -/
inductive Reaction.Shows : Reaction → Except Failure Answer → Prop
  | answer {a : Answer} : Shows (.answer a) (.ok a)
  | absent {f : Fault} {cause : Option Failure} (hk : f.kind = .request)
    (hs : f.details.lookup "status_code" = some (.int 404)) :
    Shows .absent (.error (.fault f cause))
  | invalid {f : Fault} (hk : f.kind = .invalidCid) : Shows .invalid (.error (.fault f none))
  | tooLong {m : String} : Shows .tooLong (.error (.trouble .invalidUrl m))

theorem Reaction.error_of_tooLong {result : Except Failure Answer}
    (h : Reaction.tooLong.Shows result) : ∃ m, result = .error (.trouble .invalidUrl m) := by
  cases h
  exact ⟨_, rfl⟩

/-! Identifiers. -/

namespace Catalogue
variable {cid path : String} {ds : List Char}

theorem isNumber_iff : isNumber ds = true ↔ Cid.IsRun Char.isDigit ds := by
  simp [isNumber, Cid.IsRun]

theorem isFull_append (s : String) : isFull ("/outlier_report/" ++ s) = isNumber s.toList := by
  have hfront : "/outlier_report/".toList.isPrefixOf ("/outlier_report/".toList ++ s.toList) =
      true := List.isPrefixOf_iff_prefix.mpr (List.prefix_append _ _)
  have hdrop : ("/outlier_report/".toList ++ s.toList).drop 16 = s.toList := rfl
  rw [isFull, String.toList_append, hfront, hdrop, Bool.true_and]

theorem isFull_iff :
    isFull cid = true ↔ ∃ ds, cid = Resource.item ds ∧ Cid.IsRun Char.isDigit ds := by
  constructor
  · intro h
    obtain ⟨hfront, hn⟩ := Bool.and_eq_true _ _ ▸ h
    obtain ⟨ds, hds⟩ := List.isPrefixOf_iff_prefix.mp hfront
    have hdrop : cid.toList.drop 16 = ds := by
      rw [← hds]
      rfl
    rw [hdrop] at hn
    refine ⟨ds, ?_, isNumber_iff.mp hn⟩
    rw [Resource.item_eq, ← String.ofList_toList (s := cid), ← hds]
    rfl
  · rintro ⟨ds, rfl, hd⟩
    have hchars : (String.ofList ds).toList = ds := String.toList_ofList
    have hitem := isFull_append (String.ofList ds)
    rw [hchars] at hitem
    exact hitem.trans (isNumber_iff.mpr hd)

/-- The pattern of the resource stands for full identifiers. -/
theorem accepts_eq (cid : String) :
    Cid.accepts Resource.outlierReport.pattern cid = isFull cid := by
  rw [Bool.eq_iff_iff, isFull_iff]
  refine Cid.accepts_iff.trans (Cid.matches_collectionOf.trans ?_)
  constructor
  · rintro ⟨ds, hs, hd⟩
    exact ⟨ds, by rw [Resource.item_eq, ← hs, String.ofList_toList], hd⟩
  · rintro ⟨ds, rfl, hd⟩
    exact ⟨ds, by rw [Resource.item_eq, String.toList_ofList], hd⟩

theorem accept_of_isFull (h : isFull cid = true) : Resource.outlierReport.accept cid = .ok cid := by
  rw [Resource.accept, if_pos ((accepts_eq cid).trans h)]

/-- A refusal of an identifier. -/
def IsRefused {α : Type} (x : Except Failure α) : Prop :=
  ∃ f, x = .error (.fault f none) ∧ f.kind = .invalidCid

theorem accept_refused (h : isFull cid = false) :
    IsRefused (Resource.outlierReport.accept cid) := by
  have hno : ¬ Cid.accepts Resource.outlierReport.pattern cid = true := by
    rw [accepts_eq, h]
    exact Bool.false_ne_true
  rw [Resource.accept, if_neg hno]
  exact ⟨_, rfl, rfl⟩

/-- A number does not begin as an identifier does. -/
theorem complete_eq (cid : String) :
    full? cid = if isFull (Resource.outlierReport.complete cid) then
      some (Resource.outlierReport.complete cid) else none := by
  by_cases hp : "/outlier_report".toList.isPrefixOf cid.toList = true
  · have hcomplete : Resource.outlierReport.complete cid = cid := if_pos hp
    rw [hcomplete, full?]
    obtain ⟨t, ht⟩ := List.isPrefixOf_iff_prefix.mp hp
    have hn : isNumber cid.toList = false := by
      rw [← ht]
      rfl
    rw [hn]
    rfl
  · have hcomplete : Resource.outlierReport.complete cid = "/outlier_report/" ++ cid := if_neg hp
    have hfull : isFull cid = false := by
      rw [Bool.eq_false_iff]
      intro hf
      obtain ⟨hfront, -⟩ := Bool.and_eq_true _ _ ▸ hf
      have hlong := List.isPrefixOf_iff_prefix.mp hfront
      have hshort : "/outlier_report".toList <+: "/outlier_report/".toList := ⟨['/'], rfl⟩
      exact hp (List.isPrefixOf_iff_prefix.mpr (hshort.trans hlong))
    rw [hcomplete, full?, hfull, isFull_append]
    rfl

/-- What the checks of a call make of an identifier, if it is given at all. -/
theorem normalize_ofOption (cid : Option String) :
    match cid.bind full? with
    | some path => isFull path = true ∧
      Resource.outlierReport.normalize (.ofOption cid) = .ok path
    | none => IsRefused (Resource.outlierReport.normalize (.ofOption cid)) := by
  cases cid with
  | none => exact ⟨_, rfl, rfl⟩
  | some s =>
    by_cases hs : s = ""
    · subst hs
      exact ⟨_, rfl, rfl⟩
    · have hgiven : (Value.ofOption (some s)).isGiven = true := bne_iff_ne.mpr hs
      have hnormalize : Resource.outlierReport.normalize (.ofOption (some s)) =
          Resource.outlierReport.accept (Resource.outlierReport.complete s) := if_pos hgiven
      rw [Option.bind_some, complete_eq, hnormalize]
      cases hf : isFull (Resource.outlierReport.complete s) with
      | true => exact ⟨hf, accept_of_isFull hf⟩
      | false => exact accept_refused hf

theorem checkFull_ofOption (cid : Option String) :
    match cid.filter isFull with
    | some path => isFull path = true ∧
      Resource.outlierReport.checkFull (.ofOption cid) = .ok path
    | none => IsRefused (Resource.outlierReport.checkFull (.ofOption cid)) := by
  have hempty : isFull "" = false := rfl
  cases cid with
  | none => exact accept_refused hempty
  | some s =>
    by_cases hs : s = ""
    · subst hs
      exact accept_refused hempty
    · have hgiven : (Value.ofOption (some s)).isGiven = true := bne_iff_ne.mpr hs
      have hcheck : Resource.outlierReport.checkFull (.ofOption (some s)) =
          Resource.outlierReport.accept s := if_pos hgiven
      rw [Option.filter_some, hcheck]
      cases hf : isFull s with
      | true => exact ⟨hf, accept_of_isFull hf⟩
      | false => exact accept_refused hf

/-- A full identifier is a path that stays as it is. -/
theorem isPath_of_isFull (h : isFull path = true) : Server.IsPath path := by
  obtain ⟨ds, rfl, hd⟩ := isFull_iff.mp h
  exact Resource.isPlain_item hd.2

theorem ne_collection_of_isFull (h : isFull path = true) : path ≠ "/outlier_report" := by
  obtain ⟨ds, rfl, -⟩ := isFull_iff.mp h
  exact Resource.item_ne_collection ds

theorem isPath_collection : Server.IsPath "/outlier_report" := Resource.isPlain_collection

end Catalogue
end Outlier

import Outlier.Proofs.Json.Ascii
import Outlier.Proofs.Record.Valid
import Outlier.Record.Payload

/-! Records there and back: what validation makes of the payload and of the body of a record. -/
namespace Outlier.Record

variable {r : Record} {s : Shape} {v : Value} {members : Pairs Value}

/-- Empty text and zero come back as null. -/
def cleared : Value → Value
  | .text t => if t.isEmpty then .null else .text t
  | .int n => if n = 0 then .null else .int n
  | v => v

def normal (r : Record) : Record := { r with get := fun f => cleared (r.get f) }

/-- The members of a payload: every field that is not empty, under its key. -/
def given (r : Record) : Pairs Value :=
  (r.model.fields.filter fun f => !isEmpty (r.get f)).map fun f => (f.key, r.get f)

/-! Payloads. -/

theorem plainItems_texts (depth : Nat) (h : depth ≤ deepest) (ts : List String) :
    plainItems depth (ts.map .text) = .ok (ts.map .text) := by
  induction ts with
  | nil => rfl
  | cons t ts ih =>
    have ht : plainValue depth (.text t) = .ok (.text t) := by
      simp [plainValue, Nat.not_lt.mpr h]
    rw [List.map_cons, plainItems, ih, ht]
    rfl

theorem payloadValue_of_holds (h : s.Holds v) : payloadValue s v = .ok v := by
  cases h with
  | labels ts =>
    rw [payloadValue, plainItems_texts 1 (by decide)]
    rfl
  | _ => rfl

theorem payload_of_isValid (h : r.IsValid) : r.payload = .ok r.given := by
  have hall : (r.model.fields.mapM fun f => do return (f.key, ← payloadValue f.shape (r.get f))) =
      Except.ok (r.model.fields.map fun f => (f.key, r.get f)) := by
    have hone : (fun f => do return (f.key, ← payloadValue f.shape (r.get f))) =
        fun f => (pure (f.key, r.get f) : Except Misuse (String × Value)) := by
      funext f
      rw [payloadValue_of_holds (h.holds f)]
      rfl
    rw [hone, List.mapM_pure]
    rfl
  rw [payload, hall]
  exact congrArg Except.ok List.filter_map

theorem body_of_isValid (h : r.IsValid) :
    r.body = .ok (Utf8.encode (Json.text (.object r.given))) := by
  rw [body, json, payload_of_isValid h]
  rfl

/-! Reading a payload back. -/

theorem key_injective {f g : Field} (h : f.key = g.key) : f = g := by
  revert h
  cases f <;> cases g <;> decide

/-- The name of a field is no other field's key. -/
theorem eq_of_key_eq_name {f g : Field} (h : g.key = f.name) : g = f := by
  revert h
  cases f <;> cases g <;> decide

theorem nodup_names_given (h : r.model.fields.Nodup) : r.given.names.Nodup := by
  have hkeys : (r.given.names) =
      (r.model.fields.filter fun f => !isEmpty (r.get f)).map Field.key := by
    rw [Pairs.names, given, List.map_map]
    rfl
  rw [hkeys]
  exact List.Pairwise.map Field.key (fun _ _ hne he => hne (key_injective he)) (h.filter _)

theorem lookup_given {f : Field} (hf : f ∈ r.model.fields) (he : isEmpty (r.get f) = false) :
    r.given.lookup f.key = some (r.get f) := by
  have hmem : f ∈ r.model.fields.filter fun f => !isEmpty (r.get f) := by simp [hf, he]
  rw [given]
  generalize r.model.fields.filter (fun f => !isEmpty (r.get f)) = fs at hmem
  induction fs with
  | nil => cases hmem
  | cons g fs ih =>
    rw [List.map_cons, List.lookup_cons]
    by_cases hg : f = g
    · simp [hg]
    · have hk : (f.key == g.key) = false := by
        rw [beq_eq_false_iff_ne]
        exact fun hk => hg (key_injective hk)
      simpa [hk] using ih ((List.mem_cons.mp hmem).resolve_left hg)

theorem lookup_given_of_isEmpty {f : Field} (he : isEmpty (r.get f) = true) :
    r.given.lookup f.key = none := by
  rw [List.lookup_eq_none_iff]
  intro p hp
  obtain ⟨g, hg, rfl⟩ := List.mem_map.mp hp
  rw [bne_iff_ne]
  intro hk
  cases key_injective hk
  simp [he] at hg

/-- An object carries a record if it has every field that is not empty under its key, and nothing
else. The order of its members does not matter. -/
structure Carries (members : Pairs Value) (r : Record) : Prop where
  key : ∀ f : Field, members.lookup f.key = if isEmpty (r.get f) then none else some (r.get f)
  other : ∀ name, (∀ f : Field, f.key ≠ name) → members.lookup name = none

theorem carries_given (h : r.IsValid) : Carries r.given r := by
  constructor
  · intro f
    cases he : isEmpty (r.get f) with
    | true => exact lookup_given_of_isEmpty he
    | false =>
      refine lookup_given ?_ he
      by_contra hf
      rw [h.outside f hf] at he
      revert he
      cases f.shape <;> decide
  · intro name hn
    rw [List.lookup_eq_none_iff]
    intro p hp
    obtain ⟨f, -, rfl⟩ := List.mem_map.mp hp
    exact bne_iff_ne.mpr (hn f).symm

theorem select_of_carries (hc : Carries members r) (f : Field) :
    select members f = if isEmpty (r.get f) then none else some (f.key, r.get f) := by
  rw [select, hc.key]
  cases he : isEmpty (r.get f) with
  | false => rfl
  | true =>
    have hname : members.lookup f.name = none := by
      by_cases hk : ∃ g : Field, g.key = f.name
      · obtain ⟨g, hg⟩ := hk
        rw [← hg, hc.key, eq_of_key_eq_name hg, he]
        rfl
      · exact hc.other _ fun g hg => hk ⟨g, hg⟩
    simp [hname]

theorem readLabels_texts (n : Nat) (ts : List String) :
    Shape.readLabels n (ts.map .text) = .ok (ts.map .text) := by
  induction ts generalizing n with
  | nil => rfl
  | cons t ts ih => rw [List.map_cons, Shape.readLabels, ih]; rfl

theorem read_of_holds (h : s.Holds v) (he : isEmpty v = false) : s.read v = .ok v := by
  cases h with
  | noText => cases he
  | noInteger => cases he
  | text t => rfl
  | integer n => rfl
  | labels ts =>
    rw [Shape.read, readLabels_texts]
    rfl

/-- What is empty is read as the default. -/
theorem cleared_of_isEmpty (h : s.Holds v) (he : isEmpty v = true) : cleared v = s.default := by
  cases h with
  | noText => rfl
  | noInteger => rfl
  | text t => exact if_pos he
  | integer n => exact if_pos (by simpa [isEmpty] using he)
  | labels ts =>
    have hts : ts = [] := by simpa [isEmpty] using he
    rw [hts]
    rfl

theorem cleared_of_not_isEmpty (he : isEmpty v = false) : cleared v = v := by
  cases v with
  | text t => exact if_neg (by simpa [isEmpty] using he)
  | int n => exact if_neg (by simpa [isEmpty] using he)
  | _ => rfl

theorem isEmpty_cleared (h : s.Holds v) : isEmpty (cleared v) = isEmpty v := by
  cases he : isEmpty v with
  | true =>
    rw [cleared_of_isEmpty h he]
    cases s <;> rfl
  | false => rw [cleared_of_not_isEmpty he, he]

theorem readField_of_carries (h : r.IsValid) (hc : Carries members r) (f : Field) :
    readField members f = .ok (cleared (r.get f)) := by
  rw [readField, select_of_carries hc]
  cases he : isEmpty (r.get f) with
  | true => rw [cleared_of_isEmpty (h.holds f) he]; rfl
  | false =>
    have hr := read_of_holds (h.holds f) he
    simp only [Bool.false_eq_true, if_false, hr, cleared_of_not_isEmpty he]
    rfl

theorem built_of_carries (h : r.IsValid) (hc : Carries members r) :
    built members r.model = r.normal := by
  rw [built, normal]
  congr 1
  funext f
  by_cases hf : f ∈ r.model.fields
  · rw [if_pos hf, readField_of_carries h hc]
    rfl
  · rw [if_neg hf, h.outside f hf]
    cases f.shape <;> rfl

theorem validate_of_carries (h : r.IsValid) (hc : Carries members r) :
    validate r.model (.object members) = .ok r.normal := by
  have hissues : (r.model.fields.flatMap fun f => issuesOf (readField members f)) = [] := by
    rw [List.flatMap_eq_nil_iff]
    intro f hf
    rw [readField_of_carries h hc]
    rfl
  simp only [validate, hissues, built_of_carries h hc]
  rfl

theorem validate_given (h : r.IsValid) :
    validate r.model (.object r.given) = .ok r.normal :=
  validate_of_carries h (carries_given h)

theorem given_normal (h : r.IsValid) : r.normal.given = r.given := by
  have hempty (f : Field) : isEmpty (r.normal.get f) = isEmpty (r.get f) :=
    isEmpty_cleared (h.holds f)
  rw [given, given]
  simp only [hempty]
  refine List.map_congr_left fun f hf => ?_
  have he : isEmpty (r.get f) = false := by simpa using (List.mem_filter.mp hf).2
  rw [show r.normal.get f = cleared (r.get f) from rfl, cleared_of_not_isEmpty he]

theorem isValid_normal (h : r.IsValid) : r.normal.IsValid := by
  constructor
  · intro f
    cases he : isEmpty (r.get f) with
    | true =>
      rw [show r.normal.get f = _ from cleared_of_isEmpty (h.holds f) he]
      exact Shape.holds_default _
    | false =>
      rw [show r.normal.get f = _ from cleared_of_not_isEmpty he]
      exact h.holds f
  · intro f hf
    rw [show r.normal.get f = cleared (r.get f) from rfl, h.outside f hf]
    cases f.shape <;> rfl

/-! Bodies. -/

/-- A dialect has room for the value, should it be an integer. -/
def IntegerFits (d : Json.Dialect) (v : Value) : Prop :=
  ∀ n, v = .int n → d.fits ⟨Nat.toDigits 10 n.natAbs, none, none⟩ = true

/-- A dialect has room for the integers of a record. -/
def Fits (d : Json.Dialect) (r : Record) : Prop := ∀ f, IntegerFits d (r.get f)

theorem readable_of_holds {d : Json.Dialect} {depth : Nat} (h : s.Holds v)
    (hd : Json.Within d depth) (hi : Json.Within d (depth + 1))
    (hn : IntegerFits d v) : Json.Readable d depth v := by
  cases h with
  | noText => exact .null hd
  | noInteger => exact .null hd
  | text t => exact .text hd
  | integer n => exact .int hd (hn n rfl)
  | labels ts =>
    refine .list hd fun v hv => ?_
    obtain ⟨t, -, rfl⟩ := List.mem_map.mp hv
    exact .text hi

/-- An object that carries a record has a printed form of its own. -/
theorem readable_of_carries {d : Json.Dialect} {depth : Nat} (h : r.IsValid) (hn : r.Fits d)
    (hc : Carries members r) (hk : members.names.Nodup)
    (hd : ∀ n ≤ depth + 2, Json.Within d n) : Json.Readable d depth (.object members) := by
  refine .object (hd _ (by omega)) hk fun p hp => ?_
  have hl := Pairs.lookup_of_mem hk hp
  obtain ⟨f, hf⟩ : ∃ f : Field, f.key = p.1 := by
    by_contra hno
    rw [hc.other p.1 fun f hf => hno ⟨f, hf⟩] at hl
    cases hl
  rw [← hf, hc.key] at hl
  split at hl
  · cases hl
  · rw [← Option.some.inj hl]
    exact readable_of_holds (h.holds f) (hd _ (by omega)) (hd _ (by omega)) (hn f)

theorem fits_strict (hn : ∀ f n, r.get f = .int n → Decimal.digitCount n.natAbs ≤ Json.longest) :
    r.Fits Json.strict := by
  intro f n hf
  simpa [Json.strict, Decimal.digitCount] using hn f n hf

theorem readable_given (h : r.IsValid) (hf : r.model.fields.Nodup)
    (hn : ∀ f n, r.get f = .int n → Decimal.digitCount n.natAbs ≤ Json.longest) :
    Json.Readable Json.strict 0 (.object r.given) := by
  refine readable_of_carries h (fits_strict hn) (carries_given h) (nodup_names_given hf) ?_
  exact fun n hle => Json.within_strict (by omega)

theorem nodup_fields (m : Model) : m.fields.Nodup := by
  cases m <;> decide

/-- A validated record comes back from its payload and from its body with empty text and zero
cleared, and goes out again as the same bytes, which are ASCII. -/
theorem validated_round_trip {m : Model} {r : Record} (hr : IsValidated m r)
    (hn : ∀ f n, r.get f = .int n → Decimal.digitCount n.natAbs < 4300) :
    ∃ payload body, r.payload = .ok payload ∧ r.body = .ok body ∧
      ofBody m body = .ok r.normal ∧ ofValue m (.object payload) = .ok r.normal ∧
      r.normal.body = .ok body ∧ ∀ b ∈ body, b < 0x80 := by
  obtain ⟨rfl, h⟩ := hr.isValid
  have hreadable := readable_given h (nodup_fields r.model) fun f n hf =>
    Nat.le_of_lt (hn f n hf)
  refine ⟨r.given, Utf8.encode (Json.text (.object r.given)), payload_of_isValid h,
    body_of_isValid h, ?_, ?_, ?_, ?_⟩
  · rw [ofBody, readWith, Json.readBytes?_encode_text hreadable]
    simp only [validate_given h]
    rfl
  · rw [ofValue, validate_given h]
    rfl
  · rw [body_of_isValid (isValid_normal h), given_normal h]
  · intro b hb
    rw [Utf8.encode, Json.toList_text] at hb
    exact Utf8.lt_of_mem_encodeChars (Json.isAsciiRun_print hreadable) hb

/-- A record with empty text, a repeated tag and an integer. -/
theorem validated_round_trip_tagged :
    let members : Pairs Value := [("config", .text ""), ("_created", .int 5),
      ("tags", .list [.text "a", .text "", .text "a"]), ("title", .text "\"é\x00😀")]
    let r := built members .outlierReport
    ∃ payload body, r.payload = .ok payload ∧ r.body = .ok body ∧
      ofBody .outlierReport body = .ok r.normal ∧
      ofValue .outlierReport (.object payload) = .ok r.normal ∧
      r.normal.body = .ok body ∧ ∀ b ∈ body, b < 0x80 := by
  intro members r
  refine validated_round_trip (.inl ⟨.object members, rfl⟩) ?_
  intro f n h
  cases f <;> cases h
  decide

end Outlier.Record

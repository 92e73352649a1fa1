import Mathlib.Logic.Function.Iterate
import Outlier.Proofs.Record.Selection

/-! Reading an object field by field: what each field admits, and what is wrong where it does not. -/
namespace Outlier

def Value.isText : Value → Bool
  | .text _ => true
  | _ => false

namespace Shape
variable {s : Shape} {v x : Value} {items : List Value} {n : Nat}

/-- The values that a shape admits, with what each is read as. -/
inductive Admits : Shape → Value → Value → Prop
  | null (s : Shape) : Admits s .null s.default
  | text (t : String) : Admits .text (.text t) (.text t)
  | integer {v : Value} {n : Int} (h : Coercion.integer v = .ok n) : Admits .integer v (.int n)
  | labels (ts : List String) :
    Admits .labels (.list (ts.map .text)) (.list (ts.map .text))

/-- The issues of a value: for a scalar the one there is, and for labels one if it is no list, or
else one under the index of every item that is no text. -/
def flaws : Shape → Value → List Issue
  | _, .null => []
  | .text, v => if v.isText then [] else [⟨.notText, []⟩]
  | .integer, v => match Coercion.integer v with
    | .ok _ => []
    | .error k => [⟨k, []⟩]
  | .labels, .list items =>
    (items.zipIdx.filter fun p => !p.1.isText).map fun p => ⟨.notText, [.index p.2]⟩
  | .labels, _ => [⟨.notList, []⟩]

/-- Neither the value nor one of its items is bytes. -/
def IsPlain (v : Value) : Prop := Json.NoBytes (Json.tokensOf v)

theorem ne_bytes_of_isPlain (h : IsPlain v) (bs : List UInt8) : v ≠ .bytes bs := by
  rintro rfl
  exact h bs List.mem_cons_self

theorem isPlain_of_mem (h : IsPlain (.list items)) (hv : v ∈ items) : IsPlain v := by
  intro bs hmem
  have hitems := Json.tokensOf_subset_items hv hmem
  exact h bs (List.mem_cons_of_mem _ (List.mem_append_left _ hitems))

theorem coercion_text_of_not_isText (h : IsPlain v) (ht : v.isText = false) :
    Coercion.text v = .error .notText := by
  cases v with
  | text t => cases ht
  | bytes bs => exact absurd rfl (ne_bytes_of_isPlain h bs)
  | _ => rfl

theorem isText_iff : v.isText = true ↔ ∃ t, v = .text t := by
  cases v <;> simp [Value.isText]

/-- Reading labels gives all of them, or an issue for every item that is no text. -/
theorem readLabels_cases (h : ∀ v ∈ items, IsPlain v) (n : Nat) :
    let issues : List Issue :=
      ((items.zipIdx n).filter fun p => !p.1.isText).map fun p => ⟨.notText, [.index p.2]⟩
    (∃ ts : List String, items = ts.map .text ∧ readLabels n items = .ok items ∧ issues = []) ∨
      readLabels n items = .error issues ∧ issues ≠ [] := by
  induction items generalizing n with
  | nil => exact .inl ⟨[], rfl, rfl, rfl⟩
  | cons v items ih =>
    obtain ⟨hv, hi⟩ := List.forall_mem_cons.mp h
    dsimp only
    rw [List.zipIdx_cons, readLabels]
    cases ht : v.isText with
    | true =>
      obtain ⟨t, rfl⟩ := isText_iff.mp ht
      have htext : Coercion.text (.text t) = .ok t := rfl
      rw [List.filter_cons_of_neg (by simp [ht]), htext]
      rcases ih hi (n + 1) with ⟨ts, hts, hr, hn⟩ | ⟨hr, hn⟩
      · rw [hr]
        exact .inl ⟨t :: ts, by rw [hts]; rfl, rfl, hn⟩
      · rw [hr]
        exact .inr ⟨rfl, hn⟩
    | false =>
      rw [List.filter_cons_of_pos (by simp [ht]), coercion_text_of_not_isText hv ht]
      rcases ih hi (n + 1) with ⟨ts, hts, hr, hn⟩ | ⟨hr, hn⟩
      · rw [hr, List.map_cons, hn]
        exact .inr ⟨rfl, List.cons_ne_nil _ _⟩
      · rw [hr]
        exact .inr ⟨rfl, List.cons_ne_nil _ _⟩

/-- A value is read as what it is admitted as, or else rejected with all its flaws. -/
theorem read_cases (h : IsPlain v) :
    (∃ x, s.Admits v x ∧ s.read v = .ok x ∧ s.flaws v = []) ∨
      s.read v = .error (s.flaws v) ∧ s.flaws v ≠ [] := by
  by_cases hnull : v = .null
  · subst hnull
    exact .inl ⟨s.default, .null s, by cases s <;> rfl, by cases s <;> rfl⟩
  cases s with
  | text =>
    cases v with
    | null => exact absurd rfl hnull
    | text t => exact .inl ⟨.text t, .text t, rfl, rfl⟩
    | bytes bs => exact absurd rfl (ne_bytes_of_isPlain h bs)
    | _ => exact .inr ⟨rfl, List.cons_ne_nil _ _⟩
  | integer =>
    have hread : read .integer v = single .int (Coercion.integer v) := by
      cases v <;> first | rfl | exact absurd rfl hnull
    have hflaws : flaws .integer v = match Coercion.integer v with
        | .ok _ => []
        | .error k => [⟨k, []⟩] := by
      cases v <;> first | rfl | exact absurd rfl hnull
    rw [hread, hflaws]
    cases hc : Coercion.integer v with
    | ok n => exact .inl ⟨.int n, .integer hc, rfl, rfl⟩
    | error k => exact .inr ⟨rfl, List.cons_ne_nil _ _⟩
  | labels =>
    cases v with
    | null => exact absurd rfl hnull
    | list items =>
      rcases readLabels_cases (fun v hv => isPlain_of_mem h hv) 0 with ⟨ts, hts, hr, hn⟩ | ⟨hr, hn⟩
      · refine .inl ⟨.list items, hts ▸ .labels ts, ?_, hn⟩
        rw [read, hr]
        rfl
      · refine .inr ⟨?_, hn⟩
        rw [read, hr]
        rfl
    | _ => exact .inr ⟨rfl, List.cons_ne_nil _ _⟩

theorem read_of_admits (h : s.Admits v x) : s.read v = .ok x := by
  cases h with
  | null => cases s <;> rfl
  | text t => rfl
  | @integer v n hc =>
    cases v with
    | null => cases hc
    | _ => exact congrArg (single Value.int) hc
  | labels ts =>
    rw [read, Record.readLabels_texts]
    rfl

/-- What stands below the items of a value makes no difference. -/
theorem read_merged (s : Shape) (v : Value) : s.read (Json.merged v) = s.read v := by
  have htext (v : Value) : Coercion.text (Json.merged v) = Coercion.text v := by
    cases v <;> rfl
  have hlabels (n : Nat) (items : List Value) :
      readLabels n (items.map Json.merged) = readLabels n items := by
    induction items generalizing n with
    | nil => rfl
    | cons v items ih => rw [List.map_cons, readLabels, readLabels, htext, ih]
  cases v with
  | list items =>
    rw [Json.merged, Json.mergedItems_eq]
    cases s with
    | labels => rw [read, read, hlabels]
    | _ => rfl
  | object members => cases s <;> rfl
  | _ => rfl

end Shape

namespace Record
variable {ms ns : Pairs Value} {f : Field} {x : Value} {body : List UInt8} {m : Model}

/-- The issues of the member that counts for a field, under the key it came with. -/
def flaws (ms : Pairs Value) (f : Field) : List Issue :=
  match chosen ms f with
  | some (key, v) => (f.shape.flaws v).map (·.within (.key key))
  | none => []

/-- The value of a field: what the member that counts is admitted as, or else the default. -/
def Attains (ms : Pairs Value) (f : Field) (x : Value) : Prop :=
  match chosen ms f with
  | some (_, v) => f.shape.Admits v x
  | none => x = f.shape.default

theorem readField_of_chosen {key : String} {v : Value} (h : chosen ms f = some (key, v)) :
    readField (Pairs.ofList (Json.mergedMembers ms)) f =
      (f.shape.read v).mapError (·.map (·.within (.key key))) := by
  rw [readField, select_merged, h]
  exact congrArg (Except.mapError _) (Shape.read_merged f.shape v)

theorem readField_of_not_chosen (h : chosen ms f = none) :
    readField (Pairs.ofList (Json.mergedMembers ms)) f = .ok f.shape.default := by
  rw [readField, select_merged, h]
  rfl

theorem readField_cases (h : Json.NoBytes (Json.tokensOf (.object ms))) (f : Field) :
    let members := Pairs.ofList (Json.mergedMembers ms)
    (∃ x, Attains ms f x ∧ readField members f = .ok x ∧ flaws ms f = []) ∨
      readField members f = .error (flaws ms f) ∧ flaws ms f ≠ [] := by
  dsimp only
  unfold Attains flaws
  cases hc : chosen ms f with
  | none => exact .inl ⟨_, rfl, readField_of_not_chosen hc, rfl⟩
  | some p =>
    obtain ⟨key, v⟩ := p
    have hplain : Shape.IsPlain v := by
      intro bs hmem
      have hmembers := Json.tokensOf_subset_members (mem_of_chosen hc) hmem
      exact h bs (List.mem_cons_of_mem _ (List.mem_append_left _ hmembers))
    rw [readField_of_chosen hc]
    rcases Shape.read_cases (s := f.shape) hplain with ⟨x, ha, hr, hn⟩ | ⟨hr, hn⟩
    · rw [hr]
      exact .inl ⟨x, ha, rfl, by simp [hn]⟩
    · rw [hr]
      exact .inr ⟨rfl, by simpa using hn⟩

theorem readField_of_attains (h : Attains ms f x) :
    readField (Pairs.ofList (Json.mergedMembers ms)) f = .ok x := by
  unfold Attains at h
  cases hc : chosen ms f with
  | none =>
    rw [hc] at h
    rw [readField_of_not_chosen hc, h]
  | some p =>
    rw [hc] at h
    rw [readField_of_chosen hc, Shape.read_of_admits h]
    rfl

theorem issuesOf_readField (h : Json.NoBytes (Json.tokensOf (.object ms))) (f : Field) :
    issuesOf (readField (Pairs.ofList (Json.mergedMembers ms)) f) = flaws ms f := by
  rcases readField_cases h f with ⟨x, -, hr, hn⟩ | ⟨hr, -⟩
  · rw [hr, hn]
    rfl
  · rw [hr]
    rfl

theorem flaws_of_attains (h : Json.NoBytes (Json.tokensOf (.object ms))) (ha : Attains ms f x) :
    flaws ms f = [] := by
  rw [← issuesOf_readField h, readField_of_attains ha]
  rfl

theorem attains_of_flaws (h : Json.NoBytes (Json.tokensOf (.object ms))) (hf : flaws ms f = []) :
    ∃ x, Attains ms f x ∧ readField (Pairs.ofList (Json.mergedMembers ms)) f = .ok x := by
  rcases readField_cases h f with ⟨x, ha, hr, -⟩ | ⟨-, hne⟩
  · exact ⟨x, ha, hr⟩
  · exact absurd hf hne

/-- What a text of an object is validated as. -/
theorem ofBody_of_isTextOf (h : Json.IsTextOf (.object ms) body)
    (hd : Json.nesting (.object ms) ≤ 200) :
    ofBody m body =
      if m.fields.flatMap (flaws ms) = [] then
        .ok (built (Pairs.ofList (Json.mergedMembers ms)) m)
      else .error ⟨m.name, m.fields.flatMap (flaws ms)⟩ := by
  have hread := (Json.readBytes?_of_isTextOf h).mpr ⟨hd, rfl⟩
  have hissues : (fun f => issuesOf (readField (Pairs.ofList (Json.mergedMembers ms)) f)) =
      flaws ms := funext (issuesOf_readField (Json.noBytes_of_isTextOf h))
  have hvalidate : validate m (Json.merged (.object ms)) =
      if m.fields.flatMap (flaws ms) = [] then
        .ok (built (Pairs.ofList (Json.mergedMembers ms)) m)
      else .error (m.fields.flatMap (flaws ms)) := by
    simp only [Json.merged, validate, hissues, List.isEmpty_iff]
  rw [ofBody, readWith, hread]
  simp only [hvalidate]
  split <;> rfl

theorem ofBody_of_unread (h : Json.readBytes? body = none) :
    ofBody m body = .error ⟨m.name, [⟨.invalidJson, []⟩]⟩ := by
  rw [ofBody, readWith, h]
  rfl

theorem ofBody_of_isTextOf_deep (h : Json.IsTextOf (.object ms) body)
    (hd : 200 < Json.nesting (.object ms)) :
    ofBody m body = .error ⟨m.name, [⟨.invalidJson, []⟩]⟩ := by
  have hread : Json.readBytes? body = none := by
    rw [Option.eq_none_iff_forall_ne_some]
    intro u hu
    exact absurd ((Json.readBytes?_of_isTextOf h).mp hu).1 (Nat.not_le.mpr hd)
  exact ofBody_of_unread hread

theorem flaws_congr (h : chosen ms f = chosen ns f) : flaws ms f = flaws ns f := by
  rw [flaws, flaws, h]

theorem built_congr (h : ∀ f, chosen ms f = chosen ns f) :
    built (Pairs.ofList (Json.mergedMembers ms)) m =
      built (Pairs.ofList (Json.mergedMembers ns)) m := by
  have hread : readField (Pairs.ofList (Json.mergedMembers ms)) =
      readField (Pairs.ofList (Json.mergedMembers ns)) := by
    funext f
    rw [readField, readField, select_merged, select_merged, h]
  rw [built, built, hread]

/-- The texts of two objects of which the same members count are validated alike. -/
theorem ofBody_congr {other : List UInt8} (h : Json.IsTextOf (.object ms) body)
    (hd : Json.nesting (.object ms) ≤ 200) (ho : Json.IsTextOf (.object ns) other)
    (hod : Json.nesting (.object ns) ≤ 200) (hc : ∀ f, chosen ms f = chosen ns f) :
    ofBody m other = ofBody m body := by
  have hflaws : flaws ms = flaws ns := funext fun f => flaws_congr (hc f)
  rw [ofBody_of_isTextOf h hd, ofBody_of_isTextOf ho hod, hflaws, built_congr hc]

theorem mem_fields_outlierReport (f : Field) : f ∈ Model.outlierReport.fields := by
  cases f <;> decide

theorem flaws_eq_nil_iff (h : Json.NoBytes (Json.tokensOf (.object ms))) :
    Model.outlierReport.fields.flatMap (flaws ms) = [] ↔ ∀ f, ∃ x, Attains ms f x := by
  rw [List.flatMap_eq_nil_iff]
  constructor
  · intro hn f
    obtain ⟨x, ha, -⟩ := attains_of_flaws h (hn f (mem_fields_outlierReport f))
    exact ⟨x, ha⟩
  · intro ha f _
    obtain ⟨x, hx⟩ := ha f
    exact flaws_of_attains h hx

/-- The record that is built has in each field what the field attains, and no other record does. -/
theorem eq_built_iff {r : Record} (hn : ∀ f, ∃ x, Attains ms f x) :
    built (Pairs.ofList (Json.mergedMembers ms)) .outlierReport = r ↔
      r.model = .outlierReport ∧ ∀ f, Attains ms f (r.get f) := by
  have hget (f : Field) :
      (built (Pairs.ofList (Json.mergedMembers ms)) .outlierReport).get f =
        (readField (Pairs.ofList (Json.mergedMembers ms)) f).toOption.getD f.shape.default :=
    if_pos (mem_fields_outlierReport f)
  constructor
  · rintro rfl
    refine ⟨rfl, fun f => ?_⟩
    obtain ⟨x, ha⟩ := hn f
    rw [hget, readField_of_attains ha]
    exact ha
  · rintro ⟨hm, ha⟩
    obtain ⟨m, get⟩ := r
    cases hm
    have hfun : (built (Pairs.ofList (Json.mergedMembers ms)) .outlierReport).get = get := by
      funext f
      rw [hget, readField_of_attains (ha f)]
      rfl
    rw [← hfun]
    rfl

/-- An object is validated field by field. A text of it gives the record whose fields hold what the
members that count are admitted as, or if some field admits nothing all issues of all fields, in their
order; and so does the text of every object of which the same members count, such as one that only
tells it in another way. A text that nests too deep is no JSON. -/
theorem validated_by_field (h : Json.IsTextOf (.object ms) body) :
    (Json.nesting (.object ms) ≤ 200 →
      (∀ r, ofBody .outlierReport body = .ok r ↔
        r.model = .outlierReport ∧ ∀ f, Attains ms f (r.get f)) ∧
      (∀ e, ofBody .outlierReport body = .error e ↔
        (∃ f, ∀ x, ¬ Attains ms f x) ∧
          e = ⟨"OutlierReport", Model.outlierReport.fields.flatMap (flaws ms)⟩) ∧
      ∀ ns other, Json.IsTextOf (.object ns) other → Json.nesting (.object ns) ≤ 200 →
        ((∀ f, chosen ms f = chosen ns f) ∨ Relation.EqvGen Retold ms ns) →
          ofBody .outlierReport other = ofBody .outlierReport body) ∧
    (200 < Json.nesting (.object ms) →
      ofBody .outlierReport body = .error ⟨"OutlierReport", [⟨.invalidJson, []⟩]⟩) := by
  have hbytes := Json.noBytes_of_isTextOf h
  refine ⟨fun hd => ?_, ofBody_of_isTextOf_deep h⟩
  have hflaws := flaws_eq_nil_iff hbytes
  refine ⟨fun r => ?_, fun e => ?_, fun ns other ho hod hc => ?_⟩
  · rw [ofBody_of_isTextOf h hd]
    by_cases hn : ∀ f, ∃ x, Attains ms f x
    · rw [if_pos (hflaws.mpr hn), Except.ok.injEq, eq_built_iff hn]
    · rw [if_neg (mt hflaws.mp hn)]
      exact iff_of_false nofun fun hr => hn fun f => ⟨r.get f, hr.2 f⟩
  · rw [ofBody_of_isTextOf h hd]
    by_cases hn : ∀ f, ∃ x, Attains ms f x
    · rw [if_pos (hflaws.mpr hn)]
      refine iff_of_false nofun fun ⟨⟨f, hf⟩, _⟩ => ?_
      obtain ⟨x, ha⟩ := hn f
      exact hf x ha
    · rw [if_neg (mt hflaws.mp hn), Except.error.injEq, eq_comm]
      exact (and_iff_right (by simpa using hn)).symm
  · refine ofBody_congr h hd ho hod fun f => ?_
    rcases hc with hc | hc
    · exact hc f
    · exact chosen_of_eqvGen hc f

set_option maxRecDepth 8000 in
/-- A repeated and an unknown member, a name where the key is missing, and three issues in two
fields. -/
theorem validated_by_field_flawed :
    let ms : Pairs Value := [("title", .int 1), ("cid", .bool true), ("x", .object []),
      ("tags", .list [.text "a", .null, .list []]), ("title", .null)]
    let body := Utf8.encode
      "\x7b\"title\":1, \"cid\":true,\"x\":\x7b\x7d,\"tags\":[\"a\",null,[]],\"title\":null\x7d"
    Json.IsTextOf (.object ms) body ∧
      ofBody .outlierReport body = .error ⟨"OutlierReport", [⟨.notText, [.key "cid"]⟩,
        ⟨.notText, [.key "tags", .index 1]⟩, ⟨.notText, [.key "tags", .index 2]⟩]⟩ := by
  intro ms body
  have htext : Json.IsTextOf (.object ms) body := Json.isTextOf_encode.mpr rfl
  have hcid : ∀ x, ¬ Attains ms .cid x := by
    rintro x ⟨⟩
  refine ⟨htext, ?_⟩
  exact (((validated_by_field htext).1 (by decide)).2.1 _).mpr ⟨⟨.cid, hcid⟩, rfl⟩

theorem ofBody_of_lt_digitCount {key : String} {n : Nat} (h : Json.longest < Decimal.digitCount n) :
    ofBody m (Utf8.encode (Json.text (.object [(key, .int n)]))) =
      .error ⟨m.name, [⟨.invalidJson, []⟩]⟩ := by
  have hfits : Json.strict.fits ⟨Nat.toDigits 10 (n : Int).natAbs, none, none⟩ = false :=
    decide_eq_false (Nat.not_le.mpr h)
  refine ofBody_of_unread ?_
  rw [Json.readBytes?_encode, Json.toList_text]
  exact Json.readChars?_print_tooLong (fun _ hd => Json.within_strict (by omega)) hfits

/-- The least number of more digits than the reader takes. -/
def tooLong : Nat := Nat.pow 10 Json.longest

/-- An object none of whose members counts is rejected where one nests too deep, is an integer with
too many digits or has half a surrogate pair, and of two members under one name the order matters. -/
theorem unread_rejected_and_repeats_ordered :
    let deep : Value := (fun v => Value.list [v])^[200] .null
    let text (ms : Pairs Value) := Utf8.encode (Json.text (.object ms))
    let unread := Except.error ⟨"OutlierReport", [⟨.invalidJson, []⟩]⟩
    (∀ v f, chosen [("x", v)] f = none) ∧
      ofBody .outlierReport (text [("x", deep)]) = unread ∧
      ofBody .outlierReport (text [("x", .int tooLong)]) = unread ∧
      ofBody .outlierReport (Utf8.encode "\x7b\"x\":\"\\ud800\"\x7d") = unread ∧
      ∃ r s, ofBody .outlierReport (text [("title", .text "a"), ("title", .text "b")]) = .ok r ∧
        ofBody .outlierReport (text [("title", .text "b"), ("title", .text "a")]) = .ok s ∧
        r.get .title = .text "b" ∧ s.get .title = .text "a" := by
  intro deep text unread
  have hdeep : Json.readBytes? (text [("x", deep)]) = none := by
    rw [Json.readBytes?_encode, Json.toList_text]
    exact Option.isNone_iff_eq_none.mp (by decide +kernel)
  have hlong : Json.longest < Decimal.digitCount tooLong := by
    unfold tooLong
    exact Decimal.lt_digitCount_pow (by decide)
  exact ⟨fun v f => by cases f <;> rfl, ofBody_of_unread hdeep,
    ofBody_of_lt_digitCount hlong, ofBody_of_unread rfl, _, _, rfl, rfl, rfl, rfl⟩

end Record
end Outlier

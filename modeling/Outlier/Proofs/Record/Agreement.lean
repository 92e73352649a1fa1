import Outlier.Proofs.Json.Tokens
import Outlier.Proofs.Record.RoundTrip

/-! Data and its JSON text are validated alike. -/
namespace Outlier

/-- Data that JSON has a text for: no floats and no bytes, integers of fewer digits than a reader
takes, and objects with one member under each name. -/
inductive Value.IsData : Value → Prop
  | null : IsData .null
  | bool (b : Bool) : IsData (.bool b)
  | int {n : Int} (h : Decimal.digitCount n.natAbs < 4300) : IsData (.int n)
  | text (s : String) : IsData (.text s)
  | list {items : List Value} (h : ∀ v ∈ items, IsData v) : IsData (.list items)
  | object {members : Pairs Value} (hk : members.names.Nodup) (h : ∀ p ∈ members, IsData p.2) :
    IsData (.object members)

namespace Json
variable {v : Value} {depth : Nat}

theorem nesting_lt_of_mem_items {items : List Value} (h : v ∈ items) :
    nesting v < nestingItems items := by
  induction items with
  | nil => cases h
  | cons w items ih =>
    rw [nestingItems]
    rcases List.mem_cons.mp h with rfl | h
    · omega
    · have := ih h
      omega

theorem nesting_lt_of_mem_members {members : Pairs Value} {p : String × Value} (h : p ∈ members) :
    nesting p.2 < nestingMembers members := by
  induction members with
  | nil => cases h
  | cons q members ih =>
    rw [nestingMembers]
    rcases List.mem_cons.mp h with rfl | h
    · omega
    · have := ih h
      omega

/-- Data can be read inside as many containers as leave room for its own. -/
theorem readable_of_isData (h : v.IsData) (hd : depth + nesting v ≤ 200) :
    Readable strict depth v := by
  have hin : Within strict depth := within_strict (by omega)
  induction h generalizing depth with
  | null => exact .null hin
  | bool b => exact .bool hin
  | @int n hn =>
    refine .int hin ?_
    have hlength : (Nat.toDigits 10 n.natAbs).length ≤ longest := Nat.le_of_lt hn
    exact decide_eq_true hlength
  | text s => exact .text hin
  | @list items _ ih =>
    rw [nesting] at hd
    refine .list hin fun v hv => ?_
    have hlt := nesting_lt_of_mem_items hv
    exact ih v hv (by omega) (within_strict (by omega))
  | @object members hk _ ih =>
    rw [nesting] at hd
    refine .object hin hk fun p hp => ?_
    have hlt := nesting_lt_of_mem_members hp
    exact ih p hp (by omega) (within_strict (by omega))

end Json

namespace Record

/-- Data and the text of it are validated as the same record, or fail with the same issues at the
same places. -/
theorem validated_as_text {v : Value} (m : Model) (h : v.IsData) (hd : Json.nesting v ≤ 200) :
    ofBody m (Utf8.encode (Json.text v)) = ofValue m v := by
  have hr : Json.Readable Json.strict 0 v := Json.readable_of_isData h (by omega)
  rw [ofBody, readWith, Json.readBytes?_encode_text hr]
  rfl

/-- Coercions, an issue inside a list, and an unknown member of some depth. -/
theorem validated_as_text_flawed :
    let v : Value := .object [("_created", .bool true), ("title", .int 3),
      ("tags", .list [.text "é", .null]), ("x", .list [.object [("y", .int (-12))]])]
    ofBody .outlierReport (Utf8.encode (Json.text v)) = ofValue .outlierReport v ∧
      ofValue .outlierReport v = .error ⟨"OutlierReport",
        [⟨.notText, [.key "tags", .index 1]⟩, ⟨.notText, [.key "title"]⟩]⟩ := by
  intro v
  have hx : Value.IsData (.list [.object [("y", .int (-12))]]) :=
    .list <| List.forall_mem_singleton.mpr <|
      .object (by decide) <| List.forall_mem_singleton.mpr (.int (by decide))
  have hv : v.IsData := by
    refine .object (by decide) ?_
    simp only [List.forall_mem_cons]
    exact ⟨.bool true, .int (by decide), .list (by simp [Value.IsData.text, Value.IsData.null]), hx,
      nofun⟩
  exact ⟨validated_as_text .outlierReport hv (by decide), rfl⟩

end Record
end Outlier

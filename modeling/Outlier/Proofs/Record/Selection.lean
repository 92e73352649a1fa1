import Mathlib.Logic.Relation
import Outlier.Proofs.Json.Tokens
import Outlier.Proofs.Record.RoundTrip

/-! Which members of an object count: for each field the last one under its key, or else the last one
under its name. -/
namespace Outlier

namespace Pairs
variable {α β : Type} {name : String} {p : String × α} {ps qs : Pairs α}

/-- The value of the last member under a name. -/
def last? (name : String) (ps : Pairs α) : Option α := ps.reverse.lookup name

theorem last?_append : last? name (ps ++ qs) = (last? name qs).or (last? name ps) := by
  rw [last?, List.reverse_append, List.lookup_append]
  rfl

theorem last?_cons : last? name (p :: ps) = (last? name ps).or ([p].lookup name) := by
  rw [← List.singleton_append, last?_append]
  rfl

theorem last?_cons_of_ne (h : name ≠ p.1) : last? name (p :: ps) = last? name ps := by
  rw [last?_cons, List.lookup_cons, beq_eq_false_iff_ne.mpr h]
  exact Option.or_none

theorem last?_map (f : α → β) :
    last? name (ps.map fun p => (p.1, f p.2)) = (last? name ps).map f := by
  rw [last?, ← List.map_reverse, last?]
  induction ps.reverse with
  | nil => rfl
  | cons p ps ih =>
    rw [List.map_cons, List.lookup_cons, List.lookup_cons, ih]
    cases name == p.1 <;> rfl

theorem last?_isSome (h : name ∈ ps.names) : (last? name ps).isSome := by
  obtain ⟨p, hp, rfl⟩ := List.mem_map.mp h
  rw [last?, Option.isSome_iff_ne_none, Ne, List.lookup_eq_none_iff]
  intro hnone
  simpa using hnone p (List.mem_reverse.mpr hp)

theorem lookup_putAll_last? (new : Pairs α) :
    (putAll ps new).lookup name = (last? name new).or (ps.lookup name) := by
  induction new generalizing ps with
  | nil => rfl
  | cons p new ih =>
    have hput : (putAll ps (p :: new)).lookup name =
        (last? name new).or ((put p.1 p.2 ps).lookup name) := ih
    rw [hput, last?_cons, Option.or_assoc]
    congr 1
    by_cases h : name = p.1
    · subst h
      rw [lookup_put_self, List.lookup_cons, beq_self_eq_true]
      rfl
    · rw [lookup_put_of_ne h, List.lookup_cons, beq_eq_false_iff_ne.mpr h]
      rfl

theorem lookup_ofList : (ofList ps).lookup name = last? name ps := by
  rw [ofList, lookup_putAll_last?]
  exact Option.or_none

end Pairs

namespace Record
variable {ms ns : Pairs Value} {f : Field} {key : String} {v : Value}

/-- The member that counts for a field: the last one under its key, even null, or else the last one
under its name. -/
def chosen (ms : Pairs Value) (f : Field) : Option (String × Value) :=
  match Pairs.last? f.key ms with
  | some v => some (f.key, v)
  | none => (Pairs.last? f.name ms).map (f.name, ·)

/-- What is selected of a merged object is what is chosen of its members. -/
theorem select_merged (ms : Pairs Value) (f : Field) :
    select (Pairs.ofList (Json.mergedMembers ms)) f =
      (chosen ms f).map fun p => (p.1, Json.merged p.2) := by
  rw [select, Pairs.lookup_ofList, Pairs.lookup_ofList, Json.mergedMembers_eq, Pairs.last?_map,
    Pairs.last?_map, chosen]
  cases Pairs.last? f.key ms with
  | some v => rfl
  | none => cases Pairs.last? f.name ms <;> rfl

theorem mem_of_chosen (h : chosen ms f = some (key, v)) : (key, v) ∈ ms := by
  have hmem {name : String} {v : Value} (h : Pairs.last? name ms = some v) : (name, v) ∈ ms :=
    List.mem_reverse.mp (mem_of_lookup h)
  unfold chosen at h
  cases hk : Pairs.last? f.key ms with
  | some w =>
    rw [hk] at h
    cases h
    exact hmem hk
  | none =>
    rw [hk] at h
    obtain ⟨w, hw, he⟩ := Option.map_eq_some_iff.mp h
    cases he
    exact hmem hw

/-! Objects told in another way. -/

/-- One step from the members of an object to others that say the same about every field: two with
different names change places, or one is put in that no field knows, that is under the name of a
field whose key is there, or that has one of the same name behind it. -/
inductive Retold : Pairs Value → Pairs Value → Prop
  | swapped {front back : Pairs Value} {p q : String × Value} (h : p.1 ≠ q.1) :
    Retold (front ++ p :: q :: back) (front ++ q :: p :: back)
  | unknown {front back : Pairs Value} {p : String × Value}
    (h : ∀ f : Field, p.1 ≠ f.key ∧ p.1 ≠ f.name) : Retold (front ++ back) (front ++ p :: back)
  | shadowed {front back : Pairs Value} {p : String × Value} {f : Field} (hp : p.1 = f.name)
    (hf : f.name ≠ f.key) (h : f.key ∈ (front ++ back).names) :
    Retold (front ++ back) (front ++ p :: back)
  | repeated {front back : Pairs Value} {p : String × Value} (h : p.1 ∈ back.names) :
    Retold (front ++ back) (front ++ p :: back)

/-- A member that is put in does not matter to names other than its own. -/
theorem last?_insert_of_ne {front back : Pairs Value} {p : String × Value} {name : String}
    (h : name ≠ p.1) :
    Pairs.last? name (front ++ p :: back) = Pairs.last? name (front ++ back) := by
  rw [Pairs.last?_append, Pairs.last?_append, Pairs.last?_cons_of_ne h]

theorem chosen_congr (hk : Pairs.last? f.key ms = Pairs.last? f.key ns)
    (hn : Pairs.last? f.name ms = Pairs.last? f.name ns) : chosen ms f = chosen ns f := by
  rw [chosen, chosen, hk, hn]

theorem chosen_of_retold (h : Retold ms ns) (f : Field) : chosen ms f = chosen ns f := by
  cases h with
  | @swapped front back p q h =>
    have hlast (name : String) : Pairs.last? name (front ++ p :: q :: back) =
        Pairs.last? name (front ++ q :: p :: back) := by
      rw [Pairs.last?_append, Pairs.last?_append]
      congr 1
      by_cases hp : name = p.1
      · have hq : name ≠ q.1 := fun hq => h (hp.symm.trans hq)
        rw [Pairs.last?_cons, Pairs.last?_cons_of_ne hq, Pairs.last?_cons_of_ne hq,
          Pairs.last?_cons]
      · rw [Pairs.last?_cons_of_ne hp, Pairs.last?_cons, Pairs.last?_cons,
          Pairs.last?_cons_of_ne hp]
    exact chosen_congr (hlast _) (hlast _)
  | @unknown front back p h =>
    exact chosen_congr (last?_insert_of_ne (h f).1.symm).symm
      (last?_insert_of_ne (h f).2.symm).symm
  | @shadowed front back p g hp hg h =>
    have hkey : Pairs.last? f.key (front ++ p :: back) = Pairs.last? f.key (front ++ back) := by
      refine last?_insert_of_ne fun he => ?_
      rw [hp] at he
      have hfg : f = g := eq_of_key_eq_name he
      exact hg (hfg ▸ he.symm)
    by_cases hf : f.name = p.1
    · have hfg : f = g := by
        revert hp
        rw [← hf]
        cases f <;> cases g <;> decide
      subst hfg
      obtain ⟨v, hv⟩ := Option.isSome_iff_exists.mp (Pairs.last?_isSome h)
      rw [chosen, chosen, hkey, hv]
    · exact chosen_congr hkey.symm (last?_insert_of_ne hf).symm
  | @repeated front back p h =>
    have hlast (name : String) : Pairs.last? name (front ++ back) =
        Pairs.last? name (front ++ p :: back) := by
      rw [Pairs.last?_append, Pairs.last?_append, Pairs.last?_cons]
      by_cases hn : name = p.1
      · obtain ⟨v, hv⟩ := Option.isSome_iff_exists.mp (Pairs.last?_isSome (hn ▸ h))
        simp [hv]
      · rw [List.lookup_cons, beq_eq_false_iff_ne.mpr hn, List.lookup_nil, Option.or_none]
    exact chosen_congr (hlast _) (hlast _)

/-- Whatever way leads from one object to the other, the same members count. -/
theorem chosen_of_eqvGen (h : Relation.EqvGen Retold ms ns) (f : Field) :
    chosen ms f = chosen ns f := by
  induction h with
  | rel ms ns h => exact chosen_of_retold h f
  | refl ms => rfl
  | symm ms ns _ ih => exact ih.symm
  | trans ms ns os _ _ hms hns => exact hms.trans hns

end Record
end Outlier

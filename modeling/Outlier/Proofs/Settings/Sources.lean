import Outlier.Proofs.Activity
import Outlier.Settings.Load

/-! Sources that agree but for some names: what is found under any other name is the same. -/
namespace Outlier

namespace Pairs
variable {α : Type} {keep : String → Bool} {name : String} {ps : Pairs α}

theorem filter_put (keep : String → Bool) (name : String) (a : α) (ps : Pairs α) :
    (put name a ps).filter (keep ·.1) =
      if keep name then put name a (ps.filter (keep ·.1)) else ps.filter (keep ·.1) := by
  induction ps with
  | nil => cases h : keep name <;> simp [put, h]
  | cons p ps ih =>
    by_cases hp : p.1 = name
    · subst hp
      cases h : keep p.1 <;> simp [put, h]
    · cases hk : keep p.1 <;> cases h : keep name <;> simp_all [put]

theorem lookup_filter (h : keep name = true) :
    (ps.filter (keep ·.1)).lookup name = ps.lookup name := by
  induction ps with
  | nil => rfl
  | cons p ps ih =>
    obtain ⟨n, a⟩ := p
    by_cases hn : name = n
    · subst hn
      simp [h]
    · have hne : (name == n) = false := beq_eq_false_iff_ne.mpr hn
      cases hk : keep n <;> simp [hk, List.lookup_cons, hne, ih]

end Pairs

namespace SettingsFile
variable {f g : String → Option String} {exported exported' : Pairs String}
  {bound bound' : Pairs (Option String)} {keep : String → Bool}

/-- The names that a value refers to, as far as they are replaced; `skip` counts as in replacing. -/
def references : Nat → List Char → List String
  | _, [] => []
  | skip + 1, _ :: s => references skip s
  | 0, c :: s =>
    let opened := match c, s with
      | '$', '\x7b' :: t => reference? t
      | _, _ => none
    match opened with
    | some (name, _, rest) => String.ofList name :: references (s.length - rest.length) s
    | none => references 0 s

theorem interpolate_congr {skip : Nat} {s : List Char}
    (h : ∀ name ∈ references skip s, f name = g name) :
    interpolate f skip s = interpolate g skip s := by
  induction s generalizing skip with
  | nil => cases skip <;> rfl
  | cons c s ih =>
    cases skip with
    | succ skip => exact ih h
    | zero =>
      by_cases hopened : ∃ t, c = '$' ∧ s = '\x7b' :: t
      · obtain ⟨t, rfl, rfl⟩ := hopened
        rw [references] at h
        rw [interpolate, interpolate]
        cases hr : reference? t with
        | none =>
          rw [hr] at h
          exact congrArg ('$' :: ·) (ih h)
        | some r =>
          rw [hr] at h
          obtain ⟨hname, hrest⟩ := List.forall_mem_cons.mp h
          simp only [hname, ih hrest]
      · have hplain (t : List Char) (hc : c = '$') (hs : s = '\x7b' :: t) : False :=
          hopened ⟨t, hc, hs⟩
        rw [references.eq_4 c s hplain] at h
        rw [interpolate.eq_4 f c s hplain, interpolate.eq_4 g c s hplain, ih h]

/-- No value that is kept refers to a name that is not. -/
def RefersToKept (keep : String → Bool) (bs : List Binding) : Prop :=
  ∀ b ∈ bs, keep (String.ofList b.1) = true → ∀ v ∈ b.2, ∀ name ∈ references 0 v, keep name = true

instance (keep : String → Bool) (bs : List Binding) : Decidable (RefersToKept keep bs) :=
  inferInstanceAs (Decidable (∀ b ∈ bs, _))

theorem look_congr {name : String} (hname : keep name = true)
    (he : exported.filter (keep ·.1) = exported'.filter (keep ·.1))
    (hb : bound.filter (keep ·.1) = bound'.filter (keep ·.1)) :
    look exported bound name = look exported' bound' name := by
  have hbound : bound.lookup name = bound'.lookup name := by
    rw [← Pairs.lookup_filter hname, hb, Pairs.lookup_filter hname]
  have hexported : exported.lookup name = exported'.lookup name := by
    rw [← Pairs.lookup_filter hname, he, Pairs.lookup_filter hname]
  rw [look, look, hbound, hexported]

/-- What is kept of a file does not depend on anything else, in the file or among the variables. -/
theorem filter_foldl_bind {bs : List Binding} (h : RefersToKept keep bs)
    (he : exported.filter (keep ·.1) = exported'.filter (keep ·.1))
    (hb : bound.filter (keep ·.1) = bound'.filter (keep ·.1)) :
    (bs.foldl (bind exported) bound).filter (keep ·.1) =
      ((bs.filter fun b => keep (String.ofList b.1)).foldl (bind exported') bound').filter
        (keep ·.1) := by
  induction bs generalizing bound bound' with
  | nil => exact hb
  | cons b bs ih =>
    obtain ⟨hrefers, hrest⟩ := List.forall_mem_cons.mp h
    rw [List.foldl_cons]
    cases hk : keep (String.ofList b.1) with
    | false =>
      rw [List.filter_cons, hk, if_neg Bool.false_ne_true]
      refine ih hrest ?_
      rw [bind, Pairs.filter_put, hk, if_neg Bool.false_ne_true, hb]
    | true =>
      rw [List.filter_cons, if_pos hk, List.foldl_cons]
      refine ih hrest ?_
      have hvalue : b.2.map (fun v => String.ofList (interpolate (look exported bound) 0 v)) =
          b.2.map fun v => String.ofList (interpolate (look exported' bound') 0 v) := by
        refine Option.map_congr fun v hv => ?_
        rw [interpolate_congr fun name hn => look_congr (hrefers hk v hv name hn) he hb]
      rw [bind, bind, Pairs.filter_put, Pairs.filter_put, hk, hb, hvalue]

end SettingsFile

/-- A name that stays as it is, in whatever case, while the names of some changes do not. -/
def spares (changed : String → Bool) (name : String) : Bool := !changed (lower name)

/-- Sources that differ at most where there are changes. -/
structure Sources.AgreeBut (changed : String → Bool) (s t : Sources) : Prop where
  exported : s.exported.filter (spares changed ·.1) = t.exported.filter (spares changed ·.1)
  filed : s.filed.filter (spares changed ·.1) = t.filed.filter (spares changed ·.1)

namespace Environment

/-- What the settings file binds, as it is written. -/
def bindings (e : Environment) : List SettingsFile.Binding :=
  match e.file with
  | some text =>
    let s := SettingsFile.unixLines (SettingsFile.dropMark text.toList)
    SettingsFile.bindings s.length s
  | none => []

theorem sources_eq (e : Environment) :
    e.sources = ⟨e.exported, e.bindings.foldl (SettingsFile.bind e.exported) []⟩ := by
  obtain ⟨exported, file⟩ := e
  cases file <;> rfl

/-- Environments that differ at most where there are changes, and whose settings files do not refer
from anywhere else to what changes. -/
structure AgreeBut (changed : String → Bool) (e f : Environment) : Prop where
  exported : e.exported.filter (spares changed ·.1) = f.exported.filter (spares changed ·.1)
  bindings : e.bindings.filter (fun b => spares changed (String.ofList b.1)) =
    f.bindings.filter fun b => spares changed (String.ofList b.1)
  refers : SettingsFile.RefersToKept (spares changed) e.bindings

theorem AgreeBut.sources {changed : String → Bool} {e f : Environment} (h : AgreeBut changed e f) :
    e.sources.AgreeBut changed f.sources := by
  rw [sources_eq, sources_eq]
  refine ⟨h.exported, ?_⟩
  have hrefers : SettingsFile.RefersToKept (spares changed) f.bindings := by
    intro b hb hk
    have hm : b ∈ e.bindings.filter fun b => spares changed (String.ofList b.1) :=
      h.bindings ▸ List.mem_filter.mpr ⟨hb, hk⟩
    exact h.refers b (List.mem_filter.mp hm).1 hk
  rw [SettingsFile.filter_foldl_bind h.refers h.exported rfl, h.bindings]
  exact (SettingsFile.filter_foldl_bind hrefers rfl rfl).symm

end Environment

namespace Lookup
variable {l : Lookup} {changed : String → Bool} {name : String}

theorem find_filter {α : Type} (h : changed (lower (l.lead ++ name)) = false) (keeps : α → Bool)
    (entries : Pairs α) :
    l.entry? keeps (entries.filter (spares changed ·.1)) name = l.entry? keeps entries name := by
  rw [ entry?, entry?, ← List.filter_reverse, List.find?_filter]
  congr 2
  funext p
  -- what is found has the name that is looked for, up to its case
  by_cases hp : l.fold p.1 = l.fold (l.lead ++ name)
  · have hlower : lower p.1 = lower (l.lead ++ name) := by
      unfold fold at hp
      split at hp
      · rw [hp]
      · exact hp
    simp [spares, hlower, h, hp]
  · simp [hp]

end Lookup

namespace Sources.AgreeBut
variable {changed : String → Bool} {s t : Sources} {l : Lookup} {name : String}

theorem named?_eq (h : s.AgreeBut changed t) (hn : changed (lower (l.lead ++ name)) = false) :
    s.named? l name = t.named? l name := by
  rw [named?, named?, ← Lookup.find_filter hn _ s.exported, h.exported, Lookup.find_filter hn]

theorem filed?_eq (h : s.AgreeBut changed t) (hn : changed (lower (l.lead ++ name)) = false) :
    s.filed? l name = t.filed? l name := by
  rw [filed?, filed?, ← Lookup.find_filter hn _ s.filed, h.filed, Lookup.find_filter hn]

end Sources.AgreeBut
end Outlier

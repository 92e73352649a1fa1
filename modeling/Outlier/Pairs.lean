/-! Named values in the order in which their names first came. -/
namespace Outlier

abbrev Pairs (α : Type) := List (String × α)

theorem mem_of_lookup {α β : Type} [BEq α] [LawfulBEq α] {a : α} {b : β} {ps : List (α × β)}
    (h : ps.lookup a = some b) : (a, b) ∈ ps := by
  obtain ⟨l₁, l₂, rfl, -⟩ := List.lookup_eq_some_iff.mp h
  exact List.mem_append_right _ List.mem_cons_self

namespace Pairs
variable {α : Type}

/-- Overwrites in place, or appends. -/
def put (name : String) (a : α) : Pairs α → Pairs α
  | [] => [(name, a)]
  | p :: ps => if p.1 = name then (name, a) :: ps else p :: put name a ps

def putAll (ps : Pairs α) (new : Pairs α) : Pairs α := new.foldl (fun qs p => put p.1 p.2 qs) ps

/-- Of several values under one name the last one stays, where the first one stood. -/
def ofList (ps : List (String × α)) : Pairs α := putAll [] ps

def names (ps : Pairs α) : List String := ps.map (·.1)

variable {name other : String} {a : α} {ps : Pairs α}

theorem lookup_put_self : (put name a ps).lookup name = some a := by
  induction ps with
  | nil => simp [put]
  | cons p ps ih =>
    obtain ⟨n, b⟩ := p
    by_cases h : n = name
    · simp [put, h]
    · have : (name == n) = false := by simpa using fun he => h he.symm
      simp [put, h, List.lookup_cons, this, ih]

theorem lookup_put_of_ne (h : other ≠ name) : (put name a ps).lookup other = ps.lookup other := by
  have hn : (other == name) = false := by simpa using h
  induction ps with
  | nil => simp [put, List.lookup_cons, hn]
  | cons p ps ih =>
    obtain ⟨n, b⟩ := p
    by_cases hp : n = name
    · simp [put, hp, List.lookup_cons, hn]
    · simp only [put, hp, if_false, List.lookup_cons, ih]

/-- An overwritten value keeps its place. -/
theorem names_put_of_mem (h : name ∈ ps.names) : (put name a ps).names = ps.names := by
  induction ps with
  | nil => simp [names] at h
  | cons p ps ih =>
    by_cases hp : p.1 = name
    · simp [put, hp, names]
    · have hm : name ∈ names ps := by
        obtain he | hm := List.mem_cons.mp h
        · exact absurd he.symm hp
        · exact hm
      simpa [put, hp, names] using ih hm

/-- A value under a new name goes last. -/
theorem put_of_not_mem (h : name ∉ ps.names) : put name a ps = ps ++ [(name, a)] := by
  induction ps with
  | nil => rfl
  | cons p ps ih =>
    obtain ⟨hp, hm⟩ := not_or.mp (fun he => h (List.mem_cons.mpr he))
    simp only [put, if_neg (Ne.symm hp), ih hm, List.cons_append]

theorem mem_names_put (h : other ∈ (put name a ps).names) : other = name ∨ other ∈ ps.names := by
  by_cases hm : name ∈ ps.names
  · exact .inr (names_put_of_mem hm ▸ h)
  · rw [put_of_not_mem hm, names, List.map_append, List.mem_append] at h
    exact h.symm.imp_left List.mem_singleton.mp

/-- What holds of old and new names holds of all. -/
theorem names_putAll {P : String → Prop} {new : Pairs α} (hp : ∀ n ∈ ps.names, P n)
    (hn : ∀ n ∈ new.names, P n) : ∀ n ∈ (putAll ps new).names, P n := by
  induction new generalizing ps with
  | nil => exact hp
  | cons p new ih =>
    obtain ⟨hfirst, hrest⟩ := List.forall_mem_cons.mp hn
    refine ih (fun n h => ?_) hrest
    rcases mem_names_put h with rfl | h
    · exact hfirst
    · exact hp n h

theorem lookup_of_mem (hk : ps.names.Nodup) (h : (name, a) ∈ ps) : ps.lookup name = some a := by
  induction ps with
  | nil => cases h
  | cons p ps ih =>
    obtain ⟨n, b⟩ := p
    obtain ⟨hn, hps⟩ := List.nodup_cons.mp hk
    rcases List.mem_cons.mp h with he | hm
    · cases he
      simp
    · have hne : (name == n) = false := by
        rw [beq_eq_false_iff_ne]
        rintro rfl
        exact hn (List.mem_map.mpr ⟨_, hm, rfl⟩)
      simp [List.lookup_cons, hne, ih hps hm]

theorem lookup_eq_none_of_not_mem (h : name ∉ ps.names) : ps.lookup name = none := by
  rw [List.lookup_eq_none_iff]
  intro p hp
  rw [bne_iff_ne]
  rintro rfl
  exact h (List.mem_map_of_mem hp)

theorem nodup_put (h : ps.names.Nodup) : (put name a ps).names.Nodup := by
  by_cases hm : name ∈ ps.names
  · rw [names_put_of_mem hm]
    exact h
  · rw [put_of_not_mem hm, names, List.map_append, List.nodup_append]
    refine ⟨h, by simp, ?_⟩
    rintro n hn m hname rfl
    obtain rfl : n = name := by simpa using hname
    exact hm hn

theorem nodup_putAll {new : Pairs α} (h : ps.names.Nodup) : (putAll ps new).names.Nodup := by
  induction new generalizing ps with
  | nil => exact h
  | cons p new ih => exact ih (nodup_put h)

/-- New values go before old ones. -/
theorem lookup_putAll {new : Pairs α} (hk : new.names.Nodup) :
    (putAll ps new).lookup name = (new.lookup name).or (ps.lookup name) := by
  induction new generalizing ps with
  | nil => rfl
  | cons p new ih =>
    obtain ⟨n, a⟩ := p
    obtain ⟨hn, hnew⟩ := List.nodup_cons.mp hk
    have hput : (putAll ps ((n, a) :: new)).lookup name =
        (new.lookup name).or ((put n a ps).lookup name) := ih hnew
    rw [hput, List.lookup_cons]
    by_cases he : name = n
    · subst he
      rw [lookup_eq_none_of_not_mem hn, lookup_put_self, beq_self_eq_true]
      rfl
    · rw [lookup_put_of_ne he, beq_eq_false_iff_ne.mpr he]

end Pairs
end Outlier

import Outlier.Journal.Logbook

/-! Loggers under the package: which names they have, and the level that holds for them. -/
namespace Outlier.Logbook

variable {b : Logbook} {name other : String} {s t u : List Char} {n : Nat}

theorem of_mem_above (h : t ∈ above s) : ∃ u, s = u ++ '.' :: t := by
  fun_induction above s with
  | case1 => cases h
  | case2 => cases h
  | case3 c s ih =>
    rcases List.mem_cons.mp h with rfl | h
    · exact ⟨[], rfl⟩
    · obtain ⟨u, rfl⟩ := ih h
      exact ⟨'.' :: c :: u, rfl⟩
  | case4 c s _ ih =>
    obtain ⟨u, rfl⟩ := ih h
    exact ⟨c :: u, rfl⟩

/-- Without two dots in a row no name above is passed over. -/
theorem mem_above (ht : t ≠ []) (hd : ¬ ['.', '.'] <:+: u ++ '.' :: t) :
    t ∈ above (u ++ '.' :: t) := by
  generalize hs : u ++ '.' :: t = s at hd
  fun_induction above s generalizing u with
  | case1 => simp at hs
  | case2 => simp_all [List.append_eq_cons_iff]
  | case3 c s ih =>
    cases u with
    | nil =>
      cases hs
      exact List.mem_cons_self
    | cons d u =>
      cases u with
      | nil =>
        cases hs
        exact absurd ⟨[], t, rfl⟩ hd
      | cons e u =>
        cases hs
        exact List.mem_cons_of_mem _ (ih rfl fun hi => hd (hi.trans ⟨['.', c], [], by simp⟩))
  | case4 c s hc ih =>
    cases u with
    | nil =>
      cases hs
      exact absurd rfl hc
    | cons d u =>
      cases hs
      exact ih rfl fun hi => hd (hi.trans ⟨[c], [], by simp⟩)

theorem of_mem_ancestors (h : other ∈ ancestors name) :
    ∃ u, name.toList = other.toList ++ '.' :: u := by
  obtain ⟨t, ht, rfl⟩ := List.mem_map.mp h
  obtain ⟨u, hu⟩ := of_mem_above ht
  refine ⟨u.reverse, ?_⟩
  rw [← List.reverse_reverse name.toList, hu]
  simp

theorem mem_ancestors (ho : other ≠ "") (h : name.toList = other.toList ++ '.' :: u)
    (hd : ¬ ['.', '.'] <:+: name.toList) : other ∈ ancestors name := by
  have hr : name.toList.reverse = u.reverse ++ '.' :: other.toList.reverse := by simp [h]
  have hdr : ¬ ['.', '.'] <:+: name.toList.reverse := fun hi =>
    hd (List.reverse_infix.mp (by simpa using hi))
  refine List.mem_map.mpr ⟨other.toList.reverse, ?_, by simp⟩
  rw [hr] at hdr ⊢
  exact mem_above (by simpa using ho) hdr

/-- A logger whose rows are handed on to the package. -/
def Descends (b : Logbook) (name : String) : Prop := package ∈ b.lineage name

instance : Decidable (b.Descends name) := inferInstanceAs (Decidable (package ∈ b.lineage name))

/-- The name of the package, alone or with more behind a dot, and no two dots in a row. -/
def IsBelow (name : String) : Prop :=
  ¬ ['.', '.'] <:+: name.toList ∧
    (name = package ∨ ∃ u, name.toList = package.toList ++ '.' :: u)

/-- Every name above one below the package is below it as well, for it is not above the package. -/
theorem IsBelow.of_mem_ancestors (h : IsBelow name) (ho : other ∈ ancestors name) :
    IsBelow other := by
  obtain ⟨hd, hn⟩ := h
  obtain ⟨v, hv⟩ := Logbook.of_mem_ancestors ho
  refine ⟨fun hi => hd (hi.trans ⟨[], '.' :: v, hv.symm⟩), ?_⟩
  have hdot : ∀ c, package.toList ≠ other.toList ++ '.' :: c := fun c hc =>
    absurd (hc ▸ List.mem_append_right _ List.mem_cons_self) (by decide : '.' ∉ package.toList)
  obtain rfl | ⟨u, hu⟩ := hn
  · exact absurd hv (hdot v)
  rw [hu] at hv
  rcases List.append_eq_append_iff.mp hv with ⟨c, ho, hc⟩ | ⟨c, hp, hc⟩
  · cases c with
    | nil => exact .inl (String.toList_inj.mp (by simpa using ho))
    | cons d c =>
      cases hc
      exact .inr ⟨c, ho⟩
  · cases c with
    | nil => exact .inl (String.toList_inj.mp (by simpa using hp.symm))
    | cons d c =>
      cases hc
      exact absurd hp (hdot c)

theorem mem_line (hp : package ∈ b.loggers) (h : IsBelow name) (hn : name.length ≤ n) :
    package ∈ b.line n name := by
  induction n generalizing name with
  | zero =>
    obtain ⟨-, rfl | ⟨u, hu⟩⟩ := h
    · exact absurd hn (by decide)
    · have := congrArg List.length hu
      simp_all
  | succ n ih =>
    by_cases he : name = package
    · subst he
      exact List.mem_cons_self
    obtain ⟨u, hu⟩ := h.2.resolve_left he
    have ha : package ∈ ancestors name := mem_ancestors (by decide) hu h.1
    rw [line]
    cases hf : (ancestors name).find? b.loggers.contains with
    | none => exact absurd (List.find?_eq_none.mp hf package ha) (by simpa using hp)
    | some parent =>
      have hm := List.mem_of_find?_eq_some hf
      obtain ⟨v, hv⟩ := Logbook.of_mem_ancestors hm
      refine List.mem_cons_of_mem _ (ih (h.of_mem_ancestors hm) ?_)
      have := congrArg List.length hv
      simp only [String.length_toList, List.length_append, List.length_cons] at this
      omega

theorem IsBelow.descends (h : IsBelow name) (hp : package ∈ b.loggers) : b.Descends name := by
  have hr : isRoot name = false := by
    obtain ⟨-, rfl | ⟨u, hu⟩⟩ := h
    · decide
    · simp only [isRoot, Bool.or_eq_false_iff, beq_eq_false_iff_ne]
      constructor <;> rintro rfl <;> exact absurd hu (by simp [package])
  rw [Descends, lineage, hr]
  exact mem_line hp h (Nat.le_refl _)

theorem ancestors_package : ancestors package = [] := by decide

/-- Where a logger hands its rows on to the package, each one in between is named under it. -/
theorem prefix_of_mem_line (hp : package ∈ b.line n name) (ho : other ∈ b.line n name) :
    package.toList <+: other.toList := by
  induction n generalizing name other with
  | zero =>
    cases List.mem_singleton.mp hp
    cases List.mem_singleton.mp ho
    exact List.prefix_rfl
  | succ n ih =>
    rw [line] at hp ho
    cases hf : (ancestors name).find? b.loggers.contains with
    | none =>
      rw [hf] at hp ho
      cases List.mem_singleton.mp hp
      cases List.mem_singleton.mp ho
      exact List.prefix_rfl
    | some parent =>
      rw [hf] at hp ho
      have hparent : package ∈ b.line n parent := by
        rcases List.mem_cons.mp hp with rfl | hp
        · rw [ancestors_package] at hf
          cases hf
        · exact hp
      rcases List.mem_cons.mp ho with rfl | ho
      · obtain ⟨v, hv⟩ := Logbook.of_mem_ancestors (List.mem_of_find?_eq_some hf)
        have hself : parent ∈ b.line n parent := by cases n <;> exact List.mem_cons_self
        exact (ih hparent hself).trans ⟨'.' :: v, hv.symm⟩
      · exact ih hparent ho

/-- Only the package and the loggers of the HTTP layer have levels of their own. -/
def OnlyKnownLevels (b : Logbook) : Prop :=
  ∀ name ∈ b.levels.names, name = package ∨ name ∈ transports

theorem level_of_prefix (hl : b.OnlyKnownLevels) (h : package.toList <+: name.toList)
    (hn : name ≠ package) : b.level name = .number Severity.unset.level := by
  have ht : ∀ t ∈ transports, ¬ package.toList <+: t.toList := by decide
  have hm : name ∉ b.levels.names := fun hm => (hl name hm).elim hn fun hm => ht name hm h
  rw [level, Pairs.lookup_eq_none_of_not_mem hm]
  rfl

theorem find?_level {names : List String} (hp : package ∈ names)
    (hu : ∀ name ∈ names, name ≠ package → b.level name = .number Severity.unset.level) :
    ((names.map fun n => (b.level n).toInt).find? (· != 0)).getD rootLevel =
      Severity.effective (b.level package).toInt := by
  by_cases h0 : (b.level package).toInt = 0
  · have hnone : (names.map fun n => (b.level n).toInt).find? (· != 0) = none := by
      rw [List.find?_eq_none]
      intro x hx
      obtain ⟨name, hn, rfl⟩ := List.mem_map.mp hx
      by_cases he : name = package
      · simp [he, h0]
      · simp [hu name hn he, Level.toInt, Severity.level]
    rw [hnone, h0]
    rfl
  · induction names with
    | nil => cases hp
    | cons name names ih =>
      rw [List.map_cons, List.find?_cons]
      by_cases he : name = package
      · have hb : ((b.level package).toInt != 0) = true := bne_iff_ne.mpr h0
        rw [he, hb]
        exact (if_neg h0).symm
      · rw [hu name List.mem_cons_self he]
        exact ih ((List.mem_cons.mp hp).resolve_left (Ne.symm he))
          fun m hm => hu m (List.mem_cons_of_mem _ hm)

/-- A logger under the package has the level of the package, or the root's if that is not set. -/
theorem effectiveLevel_of_descends (hl : b.OnlyKnownLevels) (h : b.Descends name) :
    b.effectiveLevel name = Severity.effective (b.level package).toInt := by
  refine find?_level h fun other ho hn => level_of_prefix hl ?_ hn
  unfold Descends lineage at h
  unfold lineage at ho
  split at h
  · cases h
  · rename_i hr
    rw [if_neg hr] at ho
    exact prefix_of_mem_line h ho

end Outlier.Logbook

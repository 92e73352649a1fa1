import Outlier.Proofs.Settings.Loaded
import Outlier.Session

/-! The steps of a session: what each of them comes to, and what it leaves behind. -/
namespace Outlier

namespace Visit
variable {α β : Type} {v : Visit α} {g : α → Visit β} {s t : Session} {a : α} {f : Failure}

theorem bind_of_ok (h : v.run s = (.ok a, t)) : (v >>= g).run s = (g a).run t := by
  change (ExceptT.bindCont g (v.run s).1 : StateM Session (Except Failure β)) (v.run s).2 = _
  rw [h]
  rfl

theorem bind_of_error (h : v.run s = (.error f, t)) : (v >>= g).run s = (.error f, t) := by
  change (ExceptT.bindCont g (v.run s).1 : StateM Session (Except Failure β)) (v.run s).2 = _
  rw [h]
  rfl

theorem get_bind (g : Session → Visit β) : (get >>= g).run s = (g s).run s := rfl

theorem run_mk (r : Except Failure α) : (ExceptT.mk (pure r) : Visit α).run s = (r, s) := rfl

theorem run_of_toOption_some (h : (v.run s).1.toOption = some a) :
    v.run s = (.ok a, (v.run s).2) := by
  cases hv : v.run s with
  | mk result t =>
    rw [hv] at h
    cases result with
    | error f => cases h
    | ok b => cases h; rfl

theorem run_of_toOption_none (h : (v.run s).1.toOption = none) :
    ∃ f, v.run s = (.error f, (v.run s).2) := by
  cases hv : v.run s with
  | mk result t =>
    rw [hv] at h
    cases result with
    | error f => exact ⟨f, rfl⟩
    | ok b => cases h

end Visit

namespace Session
variable {s t : Session} {n k : Nat} {x : Settings} {f : Failure} {given : Pairs Value} {c : Client}

def withSettings (s : Session) (x : Settings) : Session := { s with settings := s.settings ++ [x] }

/-- The logbook is configured as the settings say. -/
def configured (s : Session) (x : Settings) : Session :=
  { s with logbook := (s.logbook.configure (.text x.effectiveLevel) Logbook.console).2 }

/-- One more facade, with the note that it is ready. -/
def withFacade (s : Session) (n : Nat) (c : Client) : Session :=
  { s with
    facades := s.facades ++ [⟨n, c⟩]
    printed := s.printed ++
      s.logbook.lines Facade.journal (.number Severity.debug.level) (Facade.greeting c) }

section
variable (s : Session) (x : Settings) (n : Nat) (c : Client)

@[simp] theorem settings_configured : (s.configured x).settings = s.settings := by rw [configured]

@[simp] theorem facades_configured : (s.configured x).facades = s.facades := by rw [configured]

@[simp] theorem cachedSettings_configured :
    (s.configured x).cachedSettings = s.cachedSettings := by rw [configured]

@[simp] theorem cachedFacade_configured : (s.configured x).cachedFacade = s.cachedFacade := by
  rw [configured]

@[simp] theorem settings_withFacade : (s.withFacade n c).settings = s.settings := by rw [withFacade]

@[simp] theorem facades_withFacade : (s.withFacade n c).facades = s.facades ++ [⟨n, c⟩] := by
  rw [withFacade]

@[simp] theorem cachedSettings_withFacade :
    (s.withFacade n c).cachedSettings = s.cachedSettings := by rw [withFacade]

@[simp] theorem cachedFacade_withFacade : (s.withFacade n c).cachedFacade = s.cachedFacade := by
  rw [withFacade]

end

/-- What is cached exists, and the logbook can be configured with all settings there are. -/
structure Sound (s : Session) : Prop where
  settings : ∀ n, s.cachedSettings = some n → n < s.settings.length
  facade : ∀ k, s.cachedFacade = some k → k < s.facades.length
  known : ∀ x ∈ s.settings, x.toSwitches.IsKnown

/-! Settings. -/

theorem load_of_ok (h : Settings.load given s.environment.sources = .ok x) :
    (load given).run s = (.ok s.settings.length, s.withSettings x) := by
  rw [load, Visit.get_bind, h, Visit.bind_of_ok (Visit.run_mk _)]
  rfl

theorem load_of_error (h : Settings.load given s.environment.sources = .error f) :
    (load given).run s = (.error f, s) := by
  rw [load, Visit.get_bind, h, Visit.bind_of_error (Visit.run_mk _)]

theorem getSettings_of_some (h : s.cachedSettings = some n) : getSettings.run s = (.ok n, s) := by
  rw [getSettings, Visit.get_bind, h]
  rfl

theorem getSettings_of_ok (hs : s.cachedSettings = none)
    (h : Settings.load [] s.environment.sources = .ok x) :
    getSettings.run s = (.ok s.settings.length,
      { s.withSettings x with cachedSettings := some s.settings.length }) := by
  rw [getSettings, Visit.get_bind, hs]
  exact Visit.bind_of_ok (load_of_ok h)

theorem getSettings_of_error (hs : s.cachedSettings = none)
    (h : Settings.load [] s.environment.sources = .error f) :
    getSettings.run s = (.error f, s) := by
  rw [getSettings, Visit.get_bind, hs]
  exact Visit.bind_of_error (load_of_error h)

/-- What asking for the settings comes to. -/
inductive Settled (s : Session) : Except Failure Nat × Session → Prop
  | kept {n : Nat} (h : s.cachedSettings = some n) : Settled s (.ok n, s)
  | loaded {x : Settings} (hs : s.cachedSettings = none)
    (h : Settings.load [] s.environment.sources = .ok x) :
    Settled s (.ok s.settings.length,
      { s.withSettings x with cachedSettings := some s.settings.length })
  | failed {f : Failure} (hs : s.cachedSettings = none)
    (h : Settings.load [] s.environment.sources = .error f) : Settled s (.error f, s)

theorem settled_getSettings (s : Session) : Settled s (getSettings.run s) := by
  cases hs : s.cachedSettings with
  | some n => exact getSettings_of_some hs ▸ .kept hs
  | none =>
    cases h : Settings.load [] s.environment.sources with
    | ok x => exact getSettings_of_ok hs h ▸ .loaded hs h
    | error f => exact getSettings_of_error hs h ▸ .failed hs h

theorem Sound.withSettings (hs : s.Sound) (h : Settings.load given s.environment.sources = .ok x) :
    (s.withSettings x).Sound where
  settings n hn := by
    have := hs.settings n hn
    simp [Session.withSettings]
    omega
  facade := hs.facade
  known y hy := by
    rcases List.mem_append.mp hy with hy | hy
    · exact hs.known y hy
    · exact List.mem_singleton.mp hy ▸ Settings.isKnown_of_load h

/-- The settings that are asked for exist. -/
theorem Sound.settled (hs : s.Sound) (h : getSettings.run s = (.ok n, t)) :
    t.Sound ∧ ∃ x, t.settings[n]? = some x := by
  have hsettled := settled_getSettings s
  rw [h] at hsettled
  cases hsettled with
  | kept hn => exact ⟨hs, _, List.getElem?_eq_getElem (hs.settings n hn)⟩
  | @loaded x _ hx =>
    refine ⟨⟨?_, hs.facade, (hs.withSettings hx).known⟩, x, ?_⟩
    · rintro _ ⟨⟩
      simp [Session.withSettings]
    · simp [Session.withSettings]

/-- The settings that a facade of its own is built over. -/
def settingsOf : Option (Pairs Value) → Visit Nat
  | some given => load given
  | none => getSettings

/-- Settings that are asked for are there then, unless they cannot be loaded. -/
theorem settled_or_failed (hs : s.Sound) (given : Option (Pairs Value)) :
    (∃ f, (settingsOf given).run s = (.error f, s)) ∨
      ∃ n t x, (settingsOf given).run s = (.ok n, t) ∧ t.Sound ∧ t.settings[n]? = some x := by
  cases given with
  | none =>
    have hsettled := settled_getSettings s
    cases hn : getSettings.run s with
    | mk result t =>
      rw [hn] at hsettled
      cases result with
      | error f => cases hsettled; exact .inl ⟨f, hn⟩
      | ok n =>
        obtain ⟨ht, x, hx⟩ := hs.settled hn
        exact .inr ⟨n, t, x, hn, ht, hx⟩
  | some given =>
    cases hx : Settings.load given s.environment.sources with
    | error f => exact .inl ⟨f, load_of_error hx⟩
    | ok x =>
      refine .inr ⟨s.settings.length, s.withSettings x, x, load_of_ok hx, hs.withSettings hx, ?_⟩
      simp [withSettings]

/-! Facades. -/

theorem build_of_ok (hx : s.settings[n]? = some x) (h : Client.create x.api x.debug = .ok c) :
    (build n).run s = (.ok s.facades.length, s.withFacade n c) := by
  rw [build, Visit.get_bind, hx]
  simp only [h]
  rw [Visit.bind_of_ok (Visit.run_mk _)]
  rfl

theorem build_of_error (hx : s.settings[n]? = some x)
    (h : Client.create x.api x.debug = .error f) : (build n).run s = (.error f, s) := by
  rw [build, Visit.get_bind, hx]
  simp only [h]
  rw [Visit.bind_of_error (Visit.run_mk _)]

theorem configure_of_known (h : x.toSwitches.IsKnown) :
    (configure x.effectiveLevel).run s = (.ok (), s.configured x) := by
  obtain ⟨level, hlevel⟩ := h
  have hok : (s.logbook.configure (.text x.effectiveLevel) Logbook.console).1 = .ok () := by
    rw [Logbook.configure, hlevel]
  change ((s.logbook.configure (.text x.effectiveLevel) Logbook.console).1.mapError Failure.misuse,
    s.configured x) = _
  rw [hok]
  rfl

/-- What asking for a facade comes to. -/
inductive Handed (s : Session) : Except Failure Nat × Session → Prop
  | kept {k : Nat} (h : s.cachedFacade = some k) : Handed s (.ok k, s)
  | unsettled {f : Failure} (hs : s.cachedFacade = none) (h : getSettings.run s = (.error f, s)) :
    Handed s (.error f, s)
  | failed {t : Session} {n : Nat} {x : Settings} {f : Failure} (hs : s.cachedFacade = none)
    (hn : getSettings.run s = (.ok n, t)) (hx : t.settings[n]? = some x)
    (h : Client.create x.api x.debug = .error f) : Handed s (.error f, t.configured x)
  | built {t : Session} {n : Nat} {x : Settings} {c : Client} (hs : s.cachedFacade = none)
    (hn : getSettings.run s = (.ok n, t)) (hx : t.settings[n]? = some x)
    (h : Client.create x.api x.debug = .ok c) :
    Handed s (.ok t.facades.length,
      { (t.configured x).withFacade n c with cachedFacade := some t.facades.length })

theorem getFacade_of_some (h : s.cachedFacade = some k) : getFacade.run s = (.ok k, s) := by
  rw [getFacade, Visit.get_bind, h]
  rfl

theorem getFacade_of_unsettled (hs : s.cachedFacade = none)
    (h : getSettings.run s = (.error f, s)) : getFacade.run s = (.error f, s) := by
  rw [getFacade, Visit.get_bind, hs]
  exact Visit.bind_of_error h

def keepFacade (k : Nat) : Visit Nat := do
  modify fun s => { s with cachedFacade := some k }
  return k

theorem run_keepFacade (s : Session) (k : Nat) :
    (keepFacade k).run s = (.ok k, { s with cachedFacade := some k }) := rfl

/-- Once the settings are there, logging is configured and a facade built. -/
theorem getFacade_of_settled (hs : s.cachedFacade = none) (hn : getSettings.run s = (.ok n, t))
    (hx : t.settings[n]? = some x) (hknown : x.toSwitches.IsKnown) :
    getFacade.run s = (build n >>= keepFacade).run (t.configured x) := by
  rw [getFacade, Visit.get_bind, hs]
  simp only []
  rw [Visit.bind_of_ok hn, Visit.get_bind, hx]
  exact Visit.bind_of_ok (configure_of_known hknown)

theorem handed_getFacade (hs : s.Sound) : Handed s (getFacade.run s) := by
  cases hk : s.cachedFacade with
  | some k => exact getFacade_of_some hk ▸ .kept hk
  | none =>
    rcases settled_or_failed hs none with ⟨f, hf⟩ | ⟨n, t, x, hn, ht, hx⟩
    · exact getFacade_of_unsettled hk hf ▸ .unsettled hk hf
    · have hx' : (t.configured x).settings[n]? = some x := hx
      rw [getFacade_of_settled hk hn hx (ht.known x (List.mem_of_getElem? hx))]
      cases h : Client.create x.api x.debug with
      | error f =>
        rw [Visit.bind_of_error (build_of_error hx' h)]
        exact .failed hk hn hx h
      | ok c =>
        rw [Visit.bind_of_ok (build_of_ok hx' h), run_keepFacade]
        exact .built (t := t) hk hn hx h

/-- What making a facade comes to. -/
inductive Made (given : Option (Pairs Value)) (s : Session) : Except Failure Nat × Session → Prop
  | unsettled {f : Failure} (h : (settingsOf given).run s = (.error f, s)) :
    Made given s (.error f, s)
  | failed {t : Session} {n : Nat} {x : Settings} {f : Failure}
    (hn : (settingsOf given).run s = (.ok n, t)) (hx : t.settings[n]? = some x)
    (h : Client.create x.api x.debug = .error f) : Made given s (.error f, t)
  | built {t : Session} {n : Nat} {x : Settings} {c : Client}
    (hn : (settingsOf given).run s = (.ok n, t)) (hx : t.settings[n]? = some x)
    (h : Client.create x.api x.debug = .ok c) :
    Made given s (.ok t.facades.length, t.withFacade n c)

theorem makeFacade_eq (given : Option (Pairs Value)) :
    makeFacade given = settingsOf given >>= build := by
  cases given <;> rfl

theorem made_makeFacade (hs : s.Sound) (given : Option (Pairs Value)) :
    Made given s ((makeFacade given).run s) := by
  rw [makeFacade_eq]
  rcases settled_or_failed hs given with ⟨f, hf⟩ | ⟨n, t, x, hn, -, hx⟩
  · rw [Visit.bind_of_error hf]
    exact .unsettled hf
  · rw [Visit.bind_of_ok hn]
    cases h : Client.create x.api x.debug with
    | error f => exact build_of_error hx h ▸ .failed hn hx h
    | ok c => exact build_of_ok hx h ▸ .built hn hx h

end Session
end Outlier

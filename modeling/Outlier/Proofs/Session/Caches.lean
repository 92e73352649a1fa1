import Outlier.Exchange.Script
import Outlier.Proofs.Session.History

/-! Settings and facades that are cached. Until they are cleared everyone is handed the same ones,
which are as they were when they were first asked for. -/
namespace Outlier.Session

variable {σ : Type} {w : World σ} {file : Option String} {s t : Session} {n k : Nat} {x : Settings}
  {f : Failure} {history later : List (Act σ)}

/-- Settings `x`, with number `n`, were loaded at the end of `before` by the first that asked for
them and could have them since they were cleared, and have not been cleared since. -/
structure SettingsOrigin (w : World σ) (file : Option String) (history : List (Act σ)) (n : Nat)
    (x : Settings) (before : List (Act σ)) (a : Act σ) (between : List (Act σ)) : Prop where
  split : history = before ++ a :: between
  uncleared : .clearSettings ∉ between
  reads : a.ReadsSettings (reached w file before)
  loaded : Settings.load [] (environmentAfter file before).sources = .ok x
  isNew : n = (reached w file before).settings.length
  first : ∀ pre b mid, before = pre ++ b :: mid → .clearSettings ∉ mid →
    b.ReadsSettings (reached w file pre) →
    ∃ f, Settings.load [] (environmentAfter file pre).sources = .error f

/-- The facade with number `k` was built at the end of `before`, over the settings that were current
then, by the first that asked for it and could have it since it was cleared. -/
structure FacadeOrigin (w : World σ) (file : Option String) (history : List (Act σ)) (k n : Nat)
    (x : Settings) (c : Client) (before between : List (Act σ)) : Prop where
  split : history = before ++ .getFacade :: between
  uncleared : .clearFacade ∉ between
  current : ∃ t, getSettings.run (reached w file before) = (.ok n, t) ∧ t.settings[n]? = some x
  built : Client.create x.api x.debug = .ok c
  isNew : k = (reached w file before).facades.length
  first : ∀ pre mid, before = pre ++ .getFacade :: mid → .clearFacade ∉ mid →
    ∃ f, (getFacade.run (reached w file pre)).1 = .error f

/-- A facade that cannot be built leaves no trace of itself, but the settings that it was to be
built over stay. -/
structure Unbuilt (s : Session) (f : Failure) (t : Session) : Prop where
  facades : t.facades = s.facades
  cachedFacade : t.cachedFacade = s.cachedFacade
  settings : (getSettings.run s = (.error f, s) ∧ t = s) ∨
    ∃ n x, (getSettings.run s).1 = .ok n ∧ t.settings[n]? = some x ∧
      Client.create x.api x.debug = .error f ∧ getSettings.run t = (.ok n, t)

/-! Settings. -/

theorem cachedSettings_of_ok (h : getSettings.run s = (.ok n, t)) : t.cachedSettings = some n := by
  have hsettled := settled_getSettings s
  rw [h] at hsettled
  cases hsettled with
  | kept hn => exact hn
  | loaded _ _ => rfl

theorem load_of_empty (h : (getSettings.run s).2.cachedSettings = none) :
    ∃ f, Settings.load [] s.environment.sources = .error f := by
  have hsettled := settled_getSettings s
  generalize getSettings.run s = o at hsettled h
  cases hsettled with
  | kept hn => rw [hn] at h; cases h
  | loaded _ _ => cases h
  | failed _ hf => exact ⟨_, hf⟩

/-- Cached settings have an origin. -/
theorem exists_settingsOrigin (hn : (reached w file history).cachedSettings = some n) :
    ∃ x before a between, SettingsOrigin w file history n x before a between ∧
      (reached w file history).settings[n]? = some x := by
  obtain ⟨before, a, between, rfl, huncleared, hne, hnone, hfill⟩ := latch_settings.filled hn
  have hs : (reached w file before).Sound := sound_reached before
  have ha : a.ReadsSettings (reached w file before) := by
    by_contra ha
    rw [cachedSettings_after hs ha hne, hnone] at hfill
    cases hfill
  obtain ⟨hcached, hsettings⟩ := after_of_reads (w := w) hs ha
  rw [hfill] at hcached
  have hsettled := settled_getSettings (reached w file before)
  generalize getSettings.run (reached w file before) = o at hsettled hcached hsettings
  cases hsettled with
  | kept h => rw [hnone] at h; cases h
  | failed _ _ => rw [hnone] at hcached; cases hcached
  | @loaded x _ hx =>
    cases hcached
    rw [environment_reached] at hx
    refine ⟨x, before, a, between, ⟨rfl, huncleared, ha, hx, rfl, ?_⟩, ?_⟩
    · intro pre b mid hbefore hmid hb
      have hempty := latch_settings.empty_before hnone hbefore hmid
      rw [(after_of_reads (sound_reached pre) hb).1] at hempty
      obtain ⟨f, hf⟩ := load_of_empty hempty
      rw [environment_reached] at hf
      exact ⟨f, hf⟩
    · rw [List.append_cons]
      apply settings_reached
      rw [reached_concat, hsettings]
      simp [withSettings]

/-! Facades. -/

theorem cachedFacade_of_ok (hs : s.Sound) (h : getFacade.run s = (.ok k, t)) :
    t.cachedFacade = some k := by
  have hhanded := handed_getFacade hs
  rw [h] at hhanded
  cases hhanded with
  | kept hk => exact hk
  | built _ _ _ _ => rfl

theorem error_of_empty (hs : s.Sound) (h : (getFacade.run s).2.cachedFacade = none) :
    ∃ f, (getFacade.run s).1 = .error f := by
  cases hr : getFacade.run s with
  | mk result t =>
    cases result with
    | error f => exact ⟨f, rfl⟩
    | ok k => rw [hr, cachedFacade_of_ok hs hr] at h; cases h

/-- A cached facade has an origin, and is what is left of the one that was built then. -/
theorem exists_facadeOrigin (hk : (reached w file history).cachedFacade = some k) :
    ∃ n x c before between, FacadeOrigin w file history k n x c before between ∧
      (reached w file history).facades[k]? = some (between.foldl (Act.facade k) ⟨n, c⟩) ∧
      (reached w file history).settings[n]? = some x := by
  obtain ⟨before, a, between, rfl, huncleared, hne, hnone, hfill⟩ := latch_facade.filled hk
  have hs : (reached w file before).Sound := sound_reached before
  have ha : a = .getFacade := by
    by_contra ha
    rw [cachedFacade_after hs ha hne, hnone] at hfill
    cases hfill
  subst ha
  have hafter : reached w file (before ++ [.getFacade]) =
      (getFacade.run (reached w file before)).2 := reached_concat before .getFacade
  rw [Act.after] at hfill
  have hhanded := handed_getFacade hs
  generalize getFacade.run (reached w file before) = o at hhanded hfill hafter
  cases hhanded with
  | kept h => rw [hnone] at h; cases h
  | unsettled _ _ => rw [hnone] at hfill; cases hfill
  | failed _ hn _ _ =>
    rw [cachedFacade_configured, (visited_getSettings hs hn).2.2, hnone] at hfill
    cases hfill
  | @built t n x c _ hn hx hc =>
    cases hfill
    have hnew := (visited_getSettings hs hn).2.1
    refine ⟨n, x, c, before, between,
      ⟨rfl, huncleared, ⟨t, hn, hx⟩, hc, congrArg _ hnew, ?_⟩, ?_, ?_⟩
    · intro pre mid hbefore hmid
      exact error_of_empty (sound_reached pre) (latch_facade.empty_before hnone hbefore hmid)
    · rw [List.append_cons]
      apply facade_reached
      rw [hafter]
      simp
    · rw [List.append_cons]
      apply settings_reached
      rw [hafter]
      simpa using hx

/-- A facade keeps its settings. -/
theorem settings_foldl_facade (later : List (Act σ)) (k : Nat) (y : Facade) :
    (later.foldl (Act.facade k) y).settings = y.settings := by
  induction later generalizing y with
  | nil => rfl
  | cons a later ih =>
    rw [List.foldl_cons, ih]
    cases a with
    | use j call _ => rw [Act.facade]; split <;> rfl
    | _ => rfl

/-! Failures. -/

theorem unbuilt_getFacade (hs : s.Sound) (h : getFacade.run s = (.error f, t)) :
    s.cachedFacade = none ∧ Unbuilt s f t := by
  have hhanded := handed_getFacade hs
  rw [h] at hhanded
  cases hhanded with
  | unsettled hk hn => exact ⟨hk, rfl, rfl, .inl ⟨hn, rfl⟩⟩
  | @failed t n x _ hk hn hx hc =>
    obtain ⟨-, hfacades, hcached⟩ := visited_getSettings hs hn
    refine ⟨hk, ⟨by simpa using hfacades, by simpa using hcached, .inr ⟨n, x, ?_, ?_, hc, ?_⟩⟩⟩
    · rw [hn]
    · simpa using hx
    · apply getSettings_of_some
      simpa using cachedSettings_of_ok hn

theorem unbuilt_makeFacade (hs : s.Sound) (h : (makeFacade none).run s = (.error f, t)) :
    Unbuilt s f t := by
  have hmade := made_makeFacade hs none
  rw [h] at hmade
  cases hmade with
  | unsettled hn => exact ⟨rfl, rfl, .inl ⟨hn, rfl⟩⟩
  | @failed _ n x _ hn hx hc =>
    obtain ⟨-, hfacades, hcached⟩ := visited_getSettings hs hn
    refine ⟨hfacades, hcached, .inr ⟨n, x, congrArg Prod.fst hn, hx, hc, ?_⟩⟩
    exact getSettings_of_some (cachedSettings_of_ok hn)

/-- A missing token is noticed once the settings are there. -/
theorem getFacade_of_missing_token (hs : s.Sound) (hk : s.cachedFacade = none)
    (hn : getSettings.run s = (.ok n, t)) (hx : t.settings[n]? = some x) (hx' : x.api.token = "") :
    getFacade.run s = (.error (.fault Client.missingToken none), t.configured x) := by
  have hknown := (hs.settled hn).1.known x (List.mem_of_getElem? hx)
  have hcreate : Client.create x.api x.debug = .error (.fault Client.missingToken none) := by
    rw [Client.create, hx']
    rfl
  rw [getFacade_of_settled hk hn hx hknown]
  exact Visit.bind_of_error (build_of_error (by simpa using hx) hcreate)

/-- Settings and a facade that have been handed out are handed out, the very same ones, until they
are cleared. They come from the first that asked for them and could have them: the settings hold
what the environment was then, and the facade is one over the settings that were current then. What
cannot be had is not cached, though the settings are that a facade could not be built over. -/
theorem cached_until_cleared (w : World σ) (file : Option String) (history : List (Act σ)) :
    let s := reached w file history
    (∀ n t, getSettings.run s = (.ok n, t) → ∃ x,
      (∃ before a between,
        SettingsOrigin w file (history ++ [.getSettings]) n x before a between) ∧
      ∀ later, .clearSettings ∉ later →
        let u := reached w file (history ++ .getSettings :: later)
        getSettings.run u = (.ok n, u) ∧ u.settings[n]? = some x) ∧
    (∀ k t, getFacade.run s = (.ok k, t) → ∃ n x c,
      (∃ before between, FacadeOrigin w file (history ++ [.getFacade]) k n x c before between) ∧
      ∀ later, .clearFacade ∉ later →
        let u := reached w file (history ++ .getFacade :: later)
        getFacade.run u = (.ok k, u) ∧ (∃ y, u.facades[k]? = some y ∧ y.settings = n) ∧
          u.settings[n]? = some x) ∧
    (∀ f t, getSettings.run s = (.error f, t) → s.cachedSettings = none ∧ t = s) ∧
    (∀ f t, getFacade.run s = (.error f, t) → s.cachedFacade = none ∧ Unbuilt s f t) ∧
    (∀ f t, (makeFacade none).run s = (.error f, t) → Unbuilt s f t) ∧
    ∀ n x t, s.cachedFacade = none → getSettings.run s = (.ok n, t) → t.settings[n]? = some x →
      x.api.token = "" → ∃ u, getFacade.run s = (.error (.fault Client.missingToken none), u) ∧
        u.cachedFacade = none ∧ getSettings.run u = (.ok n, u) ∧ u.settings[n]? = some x := by
  intro s
  have hs : s.Sound := sound_reached history
  refine ⟨?_, ?_, ?_, fun f t => unbuilt_getFacade hs, fun f t => unbuilt_makeFacade hs, ?_⟩
  · intro n t h
    have hreached : reached w file (history ++ [.getSettings]) = t :=
      (reached_concat history .getSettings).trans (congrArg Prod.snd h)
    have hcached : (reached w file (history ++ [.getSettings])).cachedSettings = some n :=
      hreached ▸ cachedSettings_of_ok h
    obtain ⟨x, before, a, between, horigin, hx⟩ := exists_settingsOrigin hcached
    refine ⟨x, ⟨before, a, between, horigin⟩, fun later hlater => ?_⟩
    rw [List.append_cons]
    exact ⟨getSettings_of_some (latch_settings.kept_along hcached hlater),
      settings_reached hx later⟩
  · intro k t h
    have hreached : reached w file (history ++ [.getFacade]) = t :=
      (reached_concat history .getFacade).trans (congrArg Prod.snd h)
    have hcached : (reached w file (history ++ [.getFacade])).cachedFacade = some k :=
      hreached ▸ cachedFacade_of_ok hs h
    obtain ⟨n, x, c, before, between, horigin, hy, hx⟩ := exists_facadeOrigin hcached
    refine ⟨n, x, c, ⟨before, between, horigin⟩, fun later hlater => ?_⟩
    rw [List.append_cons]
    refine ⟨getFacade_of_some (latch_facade.kept_along hcached hlater),
      ⟨_, facade_reached hy later, ?_⟩, settings_reached hx later⟩
    rw [settings_foldl_facade, settings_foldl_facade]
  · intro f t h
    have hsettled := settled_getSettings s
    rw [h] at hsettled
    cases hsettled with
    | failed hnone _ => exact ⟨hnone, rfl⟩
  · intro n x t hk hn hx htoken
    obtain ⟨-, -, hcached⟩ := visited_getSettings hs hn
    refine ⟨t.configured x, getFacade_of_missing_token hs hk hn hx htoken, ?_, ?_, ?_⟩
    · simpa [hk] using hcached
    · apply getSettings_of_some
      simpa using cachedSettings_of_ok hn
    · simpa using hx

/-- The token is taken away and the settings are cleared, but the facade still is the one over the
settings with the token. Once it is cleared as well a new one cannot be had. -/
theorem cached_until_cleared_stale :
    let history : List (Act Script) := [.setVariable "CIRCONUS_API_TOKEN" (some "t"), .getFacade,
      .setVariable "CIRCONUS_API_TOKEN" none, .clearSettings]
    let s := reached (Script.world 0 0) none history
    let t := reached (Script.world 0 0) none (history ++ [.clearFacade])
    (getFacade.run s).1.toOption = some 0 ∧
      (∃ n x c before between,
        FacadeOrigin (Script.world 0 0) none (history ++ [.getFacade]) 0 n x c before between) ∧
      (getFacade.run t).1.toOption = none ∧
      ∃ f u, getFacade.run t = (.error f, u) ∧ Unbuilt t f u := by
  intro history s t
  have hs : (getFacade.run s).1.toOption = some 0 := by decide +kernel
  have ht : (getFacade.run t).1.toOption = none := by decide +kernel
  obtain ⟨n, x, c, horigin, -⟩ := (cached_until_cleared (Script.world 0 0) none history).2.1 0 _
    (Visit.run_of_toOption_some hs)
  obtain ⟨f, hf⟩ := Visit.run_of_toOption_none ht
  have hlaw := cached_until_cleared (Script.world 0 0) none (history ++ [.clearFacade])
  exact ⟨hs, ⟨n, x, c, horigin⟩, ht, f, _, hf, (hlaw.2.2.2.1 f _ hf).2⟩

end Outlier.Session

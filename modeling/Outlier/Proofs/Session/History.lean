import Outlier.Proofs.Session.Visit
import Mathlib.Data.List.Induction

/-! Histories of a session: whatever is done in it, numbers stay what they stand for, and what is
cached stays so until it is cleared. -/
namespace Outlier

variable {σ : Type} {w : World σ} {file : Option String} {s t : Session} {n k : Nat}

namespace Session

/-! What no visit touches. -/

/-- New settings and facades come after the old ones, and the environment stays as it is. -/
structure Visited (s t : Session) : Prop where
  environment : t.environment = s.environment
  settings : s.settings <+: t.settings
  facades : s.facades <+: t.facades
  sound : t.Sound

namespace Visited
variable {u : Session}

theorem refl (hs : s.Sound) : Visited s s := ⟨rfl, List.prefix_rfl, List.prefix_rfl, hs⟩

theorem trans (h : Visited s t) (h' : Visited t u) : Visited s u :=
  ⟨h'.environment.trans h.environment, h.settings.trans h'.settings, h.facades.trans h'.facades,
    h'.sound⟩

theorem configured (hs : s.Sound) (x : Settings) : Visited s (s.configured x) := by
  unfold Session.configured
  exact ⟨rfl, List.prefix_rfl, List.prefix_rfl, hs.settings, hs.facade, hs.known⟩

theorem withFacade (hs : s.Sound) (n : Nat) (c : Client) : Visited s (s.withFacade n c) := by
  unfold Session.withFacade
  refine ⟨rfl, List.prefix_rfl, List.prefix_append _ _, hs.settings, fun k hk => ?_, hs.known⟩
  have := hs.facade k hk
  rw [List.length_append]
  omega

theorem keepFacade (hs : s.Sound) (hk : k < s.facades.length) :
    Visited s { s with cachedFacade := some k } :=
  ⟨rfl, List.prefix_rfl, List.prefix_rfl, hs.settings, fun _ h => Option.some.inj h ▸ hk, hs.known⟩

end Visited

/-- Asking for settings has nothing to do with facades. -/
theorem visited_getSettings (hs : s.Sound) {result : Except Failure Nat}
    (h : getSettings.run s = (result, t)) :
    Visited s t ∧ t.facades = s.facades ∧ t.cachedFacade = s.cachedFacade := by
  have hsettled := settled_getSettings s
  rw [h] at hsettled
  cases hsettled with
  | kept _ => exact ⟨.refl hs, rfl, rfl⟩
  | failed _ _ => exact ⟨.refl hs, rfl, rfl⟩
  | loaded _ _ => exact ⟨⟨rfl, List.prefix_append _ _, List.prefix_rfl, (hs.settled h).1⟩, rfl, rfl⟩

theorem visited_settingsOf (hs : s.Sound) {given : Option (Pairs Value)}
    {result : Except Failure Nat} (h : (settingsOf given).run s = (result, t)) :
    Visited s t ∧ t.facades = s.facades ∧ t.cachedFacade = s.cachedFacade := by
  cases given with
  | some given =>
    cases hx : Settings.load given s.environment.sources with
    | error f =>
      obtain ⟨-, rfl⟩ := Prod.mk.inj ((load_of_error hx).symm.trans h)
      exact ⟨.refl hs, rfl, rfl⟩
    | ok x =>
      obtain ⟨-, rfl⟩ := Prod.mk.inj ((load_of_ok hx).symm.trans h)
      exact ⟨⟨rfl, List.prefix_append _ _, List.prefix_rfl, hs.withSettings hx⟩, rfl, rfl⟩
  | none => exact visited_getSettings hs h

theorem visited_getFacade (hs : s.Sound) : Visited s (getFacade.run s).2 := by
  have hhanded := handed_getFacade hs
  generalize getFacade.run s = o at hhanded
  cases hhanded with
  | kept _ => exact .refl hs
  | unsettled _ _ => exact .refl hs
  | @failed t n x f _ hn _ _ =>
    have hv := (visited_getSettings hs hn).1
    exact hv.trans (.configured hv.sound x)
  | @built t n x c _ hn _ _ =>
    have hv := (visited_getSettings hs hn).1
    have hconfigured := Visited.configured hv.sound x
    have hbuilt := Visited.withFacade hconfigured.sound n c
    have hk : t.facades.length < ((t.configured x).withFacade n c).facades.length := by
      simp
    exact hv.trans (hconfigured.trans (hbuilt.trans (.keepFacade hbuilt.sound hk)))

theorem visited_makeFacade (hs : s.Sound) (given : Option (Pairs Value)) :
    Visited s ((makeFacade given).run s).2 := by
  have hmade := made_makeFacade hs given
  generalize (makeFacade given).run s = o at hmade
  cases hmade with
  | unsettled _ => exact .refl hs
  | failed hn _ _ => exact (visited_settingsOf hs hn).1
  | @built t n x c hn _ _ =>
    have hv := (visited_settingsOf hs hn).1
    exact hv.trans (.withFacade hv.sound n c)

/-! Acts. -/

/-- What is done in a session. Each use of a facade finds the world in a state of its own. -/
inductive Act (σ : Type) where
  | setVariable (name : String) (value : Option String)
  | writeFile (text : Option String)
  | clearSettings
  | clearFacade
  | getSettings
  | getFacade
  | makeFacade (given : Option (Pairs Value))
  | use (k : Nat) (call : Call) (x : σ)

namespace Act

def after (w : World σ) (s : Session) : Act σ → Session
  | .setVariable name value => s.setVariable name value
  | .writeFile text => { s with environment := { s.environment with file := text } }
  | .clearSettings => s.clearSettings
  | .clearFacade => s.clearFacade
  | .getSettings => (Session.getSettings.run s).2
  | .getFacade => (Session.getFacade.run s).2
  | .makeFacade given => ((Session.makeFacade given).run s).2
  | .use k call x => ((Session.use w x k call s).map (·.2)).getD s

/-- The environment after an act. -/
def environment (e : Environment) : Act σ → Environment
  | .setVariable name (some v) => { e with exported := Pairs.put name v e.exported }
  | .setVariable name none => { e with exported := e.exported.filter (·.1 != name) }
  | .writeFile text => { e with file := text }
  | _ => e

/-- A facade after an act, if it is the one with the number. -/
def facade (k : Nat) (f : Facade) : Act σ → Facade
  | .use j call _ => if j = k then { f with client := call.after f.client } else f
  | _ => f

/-- The acts that ask for the settings: one for the facade does so only if none is cached. -/
def ReadsSettings (s : Session) : Act σ → Prop
  | .getSettings | .makeFacade none => True
  | .getFacade => s.cachedFacade = none
  | _ => False

end Act

variable {a : Act σ}

/-- What an act makes of a session, apart from what is cached. -/
structure Acted (s : Session) (a : Act σ) (t : Session) : Prop where
  environment : t.environment = a.environment s.environment
  settings : s.settings <+: t.settings
  facades : ∀ k f, s.facades[k]? = some f → t.facades[k]? = some (a.facade k f)
  sound : t.Sound

theorem Visited.acted (h : Visited s t) (henv : a.environment s.environment = s.environment)
    (hfacade : ∀ k f, a.facade k f = f) : Acted s a t where
  environment := h.environment.trans henv.symm
  settings := h.settings
  facades k f hf := by
    rw [hfacade]
    obtain ⟨rest, hrest⟩ := h.facades
    rw [← hrest, List.getElem?_append_left (List.getElem?_eq_some_iff.mp hf).1, hf]
  sound := h.sound

theorem use_after (k : Nat) (s : Session) (call : Call) (x : σ) : ∃ printed,
    (Act.use k call x).after w s =
      { s with facades := s.facades.modify k fun f => { f with client := call.after f.client }
               printed } := by
  rw [Act.after, Session.use]
  cases hf : s.facades[k]? with
  | none =>
    rw [List.modify_eq_self (List.getElem?_eq_none_iff.mp hf)]
    exact ⟨s.printed, rfl⟩
  | some f =>
    let : Inhabited Facade := ⟨f⟩
    rw [List.modify_eq_set, hf]
    exact ⟨_, rfl⟩

theorem acted_after (hs : s.Sound) (a : Act σ) : Acted s a (a.after w s) := by
  cases a with
  | setVariable name value =>
    refine ⟨?_, List.prefix_rfl, fun _ _ h => h, hs.settings, hs.facade, hs.known⟩
    cases value <;> rfl
  | writeFile text =>
    exact ⟨rfl, List.prefix_rfl, fun _ _ h => h, hs.settings, hs.facade, hs.known⟩
  | clearSettings => exact ⟨rfl, List.prefix_rfl, fun _ _ h => h, nofun, hs.facade, hs.known⟩
  | clearFacade => exact ⟨rfl, List.prefix_rfl, fun _ _ h => h, hs.settings, nofun, hs.known⟩
  | getSettings =>
    exact (visited_getSettings hs rfl).1.acted rfl fun _ _ => rfl
  | getFacade => exact (visited_getFacade hs).acted rfl fun _ _ => rfl
  | makeFacade given => exact (visited_makeFacade hs given).acted rfl fun _ _ => rfl
  | use k call x =>
    obtain ⟨printed, h⟩ := use_after (w := w) k s call x
    rw [h]
    refine ⟨rfl, List.prefix_rfl, fun j f hf => ?_, hs.settings, ?_, hs.known⟩
    · rw [List.getElem?_modify, hf]
      rfl
    · intro j hj
      rw [List.length_modify]
      exact hs.facade j hj

/-! What is cached. -/

/-- Who asks for the settings leaves them cached as asking for nothing else does. -/
theorem after_of_reads (hs : s.Sound) (ha : a.ReadsSettings s) :
    (a.after w s).cachedSettings = (getSettings.run s).2.cachedSettings ∧
      (a.after w s).settings = (getSettings.run s).2.settings := by
  cases a with
  | getSettings => exact ⟨rfl, rfl⟩
  | getFacade =>
    have hhanded := handed_getFacade hs
    rw [Act.after]
    generalize getFacade.run s = o at hhanded
    cases hhanded with
    | kept h => rw [show s.cachedFacade = none from ha] at h; cases h
    | unsettled _ hn => rw [hn]; exact ⟨rfl, rfl⟩
    | failed _ hn _ _ => simp [hn]
    | built _ hn _ _ => simp [hn]
  | makeFacade given =>
    cases given with
    | some given => cases ha
    | none =>
      have hmade := made_makeFacade hs none
      rw [Act.after]
      generalize (makeFacade none).run s = o at hmade
      cases hmade with
      | unsettled hn => rw [show getSettings.run s = _ from hn]; exact ⟨rfl, rfl⟩
      | failed hn _ _ => rw [show getSettings.run s = _ from hn]; exact ⟨rfl, rfl⟩
      | built hn _ _ => rw [show getSettings.run s = _ from hn]; simp
  | _ => cases ha

theorem cachedSettings_of_load {given : Pairs Value} {result : Except Failure Nat}
    (h : (load given).run s = (result, t)) : t.cachedSettings = s.cachedSettings := by
  cases hx : Settings.load given s.environment.sources with
  | error f => rw [load_of_error hx] at h; cases h; rfl
  | ok x => rw [load_of_ok hx] at h; cases h; rfl

theorem cachedSettings_after (hs : s.Sound) (ha : ¬ a.ReadsSettings s)
    (hc : a ≠ .clearSettings) : (a.after w s).cachedSettings = s.cachedSettings := by
  cases a with
  | setVariable name value => rfl
  | writeFile text => rfl
  | clearSettings => exact absurd rfl hc
  | clearFacade => rfl
  | getSettings => exact absurd trivial ha
  | getFacade =>
    obtain ⟨k, hk⟩ := Option.ne_none_iff_exists'.mp ha
    rw [Act.after, getFacade_of_some hk]
  | makeFacade given =>
    cases given with
    | none => exact absurd trivial ha
    | some given =>
      have hmade := made_makeFacade hs (some given)
      rw [Act.after]
      generalize (makeFacade (some given)).run s = o at hmade
      cases hmade with
      | unsettled _ => rfl
      | failed hn _ _ => exact cachedSettings_of_load hn
      | built hn _ _ => exact (cachedSettings_withFacade ..).trans (cachedSettings_of_load hn)
  | use k call x =>
    obtain ⟨printed, h⟩ := use_after (w := w) k s call x
    rw [h]

theorem cachedFacade_after (hs : s.Sound) (ha : a ≠ .getFacade) (hc : a ≠ .clearFacade) :
    (a.after w s).cachedFacade = s.cachedFacade := by
  cases a with
  | setVariable name value => rfl
  | writeFile text => rfl
  | clearSettings => rfl
  | clearFacade => exact absurd rfl hc
  | getSettings => exact (visited_getSettings hs rfl).2.2
  | getFacade => exact absurd rfl ha
  | makeFacade given =>
    have hmade := made_makeFacade hs given
    rw [Act.after]
    generalize (makeFacade given).run s = o at hmade
    cases hmade with
    | unsettled _ => rfl
    | failed hn _ _ => exact (visited_settingsOf hs hn).2.2
    | built hn _ _ => exact (cachedFacade_withFacade ..).trans (visited_settingsOf hs hn).2.2
  | use k call x =>
    obtain ⟨printed, h⟩ := use_after (w := w) k s call x
    rw [h]

/-! Histories. -/

variable {history later : List (Act σ)}

/-- The session that a history leads to. -/
def reached (w : World σ) (file : Option String) (history : List (Act σ)) : Session :=
  history.foldl (Act.after w) (start file)

/-- The environment at the end of a history, whatever else is done. -/
def environmentAfter (file : Option String) (history : List (Act σ)) : Environment :=
  history.foldl Act.environment ⟨[], file⟩

theorem reached_concat (history : List (Act σ)) (a : Act σ) :
    reached w file (history ++ [a]) = a.after w (reached w file history) := by
  rw [reached, List.foldl_append]
  rfl

theorem sound_reached (history : List (Act σ)) : (reached w file history).Sound := by
  induction history using List.reverseRecOn with
  | nil => exact ⟨nofun, nofun, nofun⟩
  | append_singleton history a ih =>
    rw [reached_concat]
    exact (acted_after ih a).sound

theorem environment_reached (history : List (Act σ)) :
    (reached w file history).environment = environmentAfter file history := by
  induction history using List.reverseRecOn with
  | nil => rfl
  | append_singleton history a ih =>
    rw [reached_concat, (acted_after (sound_reached history) a).environment, ih]
    rw [environmentAfter, environmentAfter, List.foldl_append]
    rfl

theorem settings_reached {x : Settings} (h : (reached w file history).settings[n]? = some x)
    (later : List (Act σ)) : (reached w file (history ++ later)).settings[n]? = some x := by
  induction later using List.reverseRecOn with
  | nil => rwa [List.append_nil]
  | append_singleton later a ih =>
    rw [← List.append_assoc, reached_concat]
    obtain ⟨rest, hrest⟩ := (acted_after (w := w) (sound_reached (history ++ later)) a).settings
    rw [← hrest, List.getElem?_append_left (List.getElem?_eq_some_iff.mp ih).1, ih]

theorem facade_reached {f : Facade} (h : (reached w file history).facades[k]? = some f)
    (later : List (Act σ)) :
    (reached w file (history ++ later)).facades[k]? = some (later.foldl (Act.facade k) f) := by
  induction later using List.reverseRecOn with
  | nil => rwa [List.append_nil]
  | append_singleton later a ih =>
    rw [← List.append_assoc, reached_concat, List.foldl_append]
    exact (acted_after (sound_reached (history ++ later)) a).facades k _ ih

/-- A cell that stays as it is once it is filled, until it is cleared. -/
structure Latch (w : World σ) (cell : Session → Option Nat) (clear : Act σ) : Prop where
  initial : ∀ file, cell (start file) = none
  cleared : ∀ s, cell (clear.after w s) = none
  kept : ∀ {s a k}, s.Sound → a ≠ clear → cell s = some k → cell (a.after w s) = some k

namespace Latch
variable {cell : Session → Option Nat} {clear : Act σ} {before mid : List (Act σ)} {b : Act σ}

theorem kept_along (h : Latch w cell clear) (hk : cell (reached w file history) = some k)
    (hl : clear ∉ later) : cell (reached w file (history ++ later)) = some k := by
  induction later using List.reverseRecOn with
  | nil => rwa [List.append_nil]
  | append_singleton later a ih =>
    rw [List.mem_append, not_or, List.mem_singleton] at hl
    rw [← List.append_assoc, reached_concat]
    exact h.kept (sound_reached _) (Ne.symm hl.2) (ih hl.1)

/-- What a cell holds was put there when it was empty, and no clearing came after that. -/
theorem filled (h : Latch w cell clear) (hk : cell (reached w file history) = some k) :
    ∃ before a between, history = before ++ a :: between ∧ clear ∉ between ∧ a ≠ clear ∧
      cell (reached w file before) = none ∧
      cell (a.after w (reached w file before)) = some k := by
  induction history using List.reverseRecOn with
  | nil => rw [show reached w file [] = start file from rfl, h.initial] at hk; cases hk
  | append_singleton history a ih =>
    have hne : a ≠ clear := by
      rintro rfl
      rw [reached_concat, h.cleared] at hk
      cases hk
    rw [reached_concat] at hk
    cases hcell : cell (reached w file history) with
    | none => exact ⟨history, a, [], rfl, nofun, hne, hcell, hk⟩
    | some j =>
      have hj : j = k := Option.some.inj ((h.kept (sound_reached history) hne hcell).symm.trans hk)
      obtain ⟨before, b, between, rfl, hclear, hfill⟩ := ih (hj ▸ hcell)
      refine ⟨before, b, between ++ [a], by simp, ?_, hfill⟩
      rw [List.mem_append, not_or, List.mem_singleton]
      exact ⟨hclear, Ne.symm hne⟩

/-- Where a cell is empty, nothing has filled it since it was cleared. -/
theorem empty_before (h : Latch w cell clear) (hnone : cell (reached w file before) = none)
    (hbefore : before = history ++ b :: mid) (hmid : clear ∉ mid) :
    cell (b.after w (reached w file history)) = none := by
  cases hk : cell (b.after w (reached w file history)) with
  | none => rfl
  | some k =>
    rw [← reached_concat] at hk
    have hkept := h.kept_along hk hmid
    rw [List.append_assoc, List.singleton_append, ← hbefore, hnone] at hkept
    cases hkept

end Latch

theorem latch_settings : Latch w Session.cachedSettings .clearSettings where
  initial _ := rfl
  cleared _ := rfl
  kept {s a k} hs hne hk := by
    by_cases ha : a.ReadsSettings s
    · rw [(after_of_reads hs ha).1, getSettings_of_some hk, hk]
    · rw [cachedSettings_after hs ha hne, hk]

theorem latch_facade : Latch w Session.cachedFacade .clearFacade where
  initial _ := rfl
  cleared _ := rfl
  kept {s a k} hs hne hk := by
    by_cases ha : a = .getFacade
    · rw [ha, Act.after, getFacade_of_some hk, hk]
    · rw [cachedFacade_after hs ha hne, hk]

end Session
end Outlier

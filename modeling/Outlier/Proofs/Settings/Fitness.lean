import Outlier.Proofs.Exchange.Rows
import Outlier.Proofs.Journal.Configuration
import Outlier.Proofs.Settings.Priority
import Outlier.Proofs.Text.Upper

/-! Settings that load are fit for use: for addresses, for retries and for the logbook. -/
namespace Outlier

namespace Logbook
variable {t : String}

/-- Any logbook can be configured with the level. -/
def Accepts (level : Value) : Prop :=
  ∀ (b : Logbook) (stream : String), (b.configure level stream).1 = .ok ()

theorem levelOf_text (t : String) : levelOf (.text t) = match Severity.ofName? (upper t) with
    | some severity => .ok (.number severity.level)
    | none => .error (.unknownLevel (upper t)) := rfl

theorem accepts_text_iff : Accepts (.text t) ↔ (Severity.ofName? (upper t)).isSome = true := by
  constructor
  · intro h
    have hstart := h .start console
    rw [configure, levelOf_text] at hstart
    cases hs : Severity.ofName? (upper t) with
    | none => rw [hs] at hstart; cases hstart
    | some severity => rfl
  · intro h b stream
    obtain ⟨severity, hs⟩ := Option.isSome_iff_exists.mp h
    have hlevel : levelOf (.text t) = .ok (.number severity.level) := by rw [levelOf_text, hs]
    rw [configure_ok hlevel]

/-- A name that is upper-cased already is taken as it is. -/
theorem accepts_upper_iff :
    Accepts (.text (upper t)) ↔ (Severity.ofName? (upper t)).isSome = true := by
  rw [accepts_text_iff, upper_upper]

theorem upper_name (severity : Severity) : upper severity.name = severity.name := by
  cases severity <;> decide +kernel

/-- The name of a severity sets the package to its level. -/
theorem configure_name (b : Logbook) (severity : Severity) (stream : String) :
    (b.configure (.text severity.name) stream).1 = .ok () ∧
      (b.configure (.text severity.name) stream).2.level package = .number severity.level := by
  have hname : Severity.ofName? severity.name = some severity := by cases severity <;> rfl
  have hlevel : levelOf (.text severity.name) = .ok (.number severity.level) := by
    rw [levelOf_text, upper_name, hname]
  rw [configure_ok hlevel]
  exact ⟨rfl, level_finish_package⟩

end Logbook

namespace Checked
variable {α β : Type} {read : Value → Coercion.Result α} {i : Issue}

theorem issues_seq (f : Checked (α → β)) (a : Checked α) :
    (f <*> a).issues = f.issues ++ a.issues := by
  cases f <;> cases a <;> rfl

theorem issues_map (f : α → β) (a : Checked α) : (f <$> a).issues = a.issues := by
  cases a <;> rfl

theorem place_of_part {name : String} {absent : α} {v : Option Value}
    (h : i ∈ (part name absent read v).issues) : i.place = [.key name] := by
  unfold part at h
  split at h
  · cases h
  · split at h
    · cases h
    · obtain rfl := List.mem_singleton.mp h
      rfl

theorem place_of_within {p : Place} {a : Checked α} (h : i ∈ (a.within p).issues) :
    ∃ rest, i.place = p :: rest := by
  cases a with
  | good a => cases h
  | bad is =>
    obtain ⟨j, -, rfl⟩ := List.mem_map.mp h
    exact ⟨j.place, rfl⟩

end Checked

theorem issues_of_verdict {α : Type} {title other : String} {c : Checked α} {issues : List Issue}
    (h : verdict title c = .error (.rejected ⟨other, issues⟩)) :
    title = other ∧ c.issues = issues := by
  cases c with
  | good a => cases h
  | bad is => cases h; exact ⟨rfl, rfl⟩

namespace Switches
variable {look : String → Option Value} {x : Switches} {t : String}

/-- What is wrong with a level that has no such name. -/
def unknownLevel (t : String) : Issue := ⟨.unknownLevel t, [.key "log_level"]⟩

/-- A text for the level is taken in upper case if the logbook knows that, and refused otherwise. -/
theorem part_level (t : String) :
    Logbook.Accepts (.text (upper t)) ∧
      Checked.part "log_level" Severity.info.name readLevel (some (.text t)) = .good (upper t) ∨
    ¬ Logbook.Accepts (.text (upper t)) ∧
      Checked.part "log_level" Severity.info.name readLevel (some (.text t)) =
        .bad [unknownLevel t] := by
  have hread : readLevel (.text t) = if (Severity.ofName? (upper t)).isSome then .ok (upper t)
      else .error (.unknownLevel t) := rfl
  rw [Logbook.accepts_upper_iff, Checked.part, hread]
  by_cases h : (Severity.ofName? (upper t)).isSome = true
  · exact .inl ⟨h, by rw [if_pos h]⟩
  · exact .inr ⟨h, by rw [if_neg h]; rfl⟩

theorem level_of_check (h : check look = .good x) (ht : look "log_level" = some (.text t)) :
    Logbook.Accepts (.text (upper t)) ∧ x.logLevel = upper t := by
  obtain ⟨f, level, hf, hlevel, rfl⟩ := Checked.good_of_seq h
  obtain ⟨debug, -, rfl⟩ := Checked.good_of_map hf
  rw [ht] at hlevel
  rcases part_level t with ⟨haccepts, hpart⟩ | ⟨-, hpart⟩
  · exact ⟨haccepts, Checked.good.inj (hlevel.symm.trans hpart)⟩
  · cases hlevel.symm.trans hpart

theorem unknownLevel_mem_iff (ht : look "log_level" = some (.text t)) :
    unknownLevel t ∈ (check look).issues ↔ ¬ Logbook.Accepts (.text (upper t)) := by
  rw [check, Checked.issues_seq, Checked.issues_map, ht, List.mem_append]
  have hdebug : unknownLevel t ∉
      (Checked.part "debug" false Coercion.boolean (look "debug")).issues := fun h =>
    absurd (Checked.place_of_part h) (by simp [unknownLevel])
  rcases part_level t with ⟨haccepts, hpart⟩ | ⟨hrefuses, hpart⟩
  · rw [hpart]
    exact iff_of_false (fun h => h.elim hdebug List.not_mem_nil) fun hn => hn haccepts
  · rw [hpart]
    exact iff_of_true (.inr (List.mem_singleton_self _)) hrefuses

/-- Another level for switches that are good. -/
theorem check_of_level {f : String → Option Value} (h : check look = .good x)
    (hdebug : f "debug" = look "debug") (ht : f "log_level" = some (.text t)) :
    (Logbook.Accepts (.text (upper t)) → check f = .good { x with logLevel := upper t }) ∧
    (¬ Logbook.Accepts (.text (upper t)) → check f = .bad [unknownLevel t]) := by
  obtain ⟨g, level, hg, -, rfl⟩ := Checked.good_of_seq h
  obtain ⟨debug, hgood, rfl⟩ := Checked.good_of_map hg
  rw [check, hdebug, ht, hgood]
  rcases part_level t with ⟨haccepts, hpart⟩ | ⟨hrefuses, hpart⟩
  · rw [hpart]
    exact ⟨fun _ => rfl, fun hn => absurd haccepts hn⟩
  · rw [hpart]
    exact ⟨fun ha => absurd ha hrefuses, fun _ => rfl⟩

end Switches

namespace Connection
variable {look : String → Option Value} {x : Connection}

theorem getLast?_trimEnd {s : List Char} {c : Char} : (trimEnd (· == c) s).getLast? ≠ some c := by
  rw [trimEnd, List.getLast?_reverse]
  intro h
  have hhead := List.head?_dropWhile_not (· == c) s.reverse
  rw [h] at hhead
  simp at hhead

theorem url_of_check (h : check look = .good x) : x.url.toList.getLast? ≠ some '/' := by
  refine Checked.holds_of_part (P := fun url : String => url.toList.getLast? ≠ some '/')
    (isRead_of_check h).url (by decide) fun v b hv => ?_
  obtain ⟨s, -, rfl⟩ := ok_of_map hv
  rw [String.toList_ofList]
  exact getLast?_trimEnd

/-- The number of retries is an integer as it is read, and so it is not negative. -/
theorem maxRetries_of_check (h : check look = .good x) {v : Value}
    (hv : look "max_retries" = some v) : Coercion.integer v = .ok (x.maxRetries : Int) := by
  rcases Checked.good_of_part (isRead_of_check h).maxRetries with ⟨hnone, -⟩ | ⟨w, hw, hread⟩
  · cases hv.symm.trans hnone
  · obtain rfl := Option.some.inj (hv.symm.trans hw)
    obtain ⟨n, hn, hcount⟩ := ok_of_bind hread
    split at hcount
    next hnonneg =>
      rw [hn, ← Except.ok.inj hcount, Int.toNat_of_nonneg hnonneg]
    · cases hcount

end Connection

/-- The first attempt is made, and then at most as many as there are retries. -/
theorem Client.requests_le {σ : Type} {c : Client} {verb : Verb} {path : String}
    {body : Option (List UInt8)} {w : World σ} {s : σ} {q : Request}
    (hq : c.request verb path body = .ok q) : ∃ n ≤ c.connection.maxRetries,
      (c.exchange verb path body w s).events.filterMap Event.request? =
        List.replicate (n + 1) q :=
  ⟨_, lastAttempt_le _ _, requests_exchange_eq hq⟩

namespace Settings
variable {given : Pairs Value} {s : Sources} {x : Settings} {t : String}

/-- Settings that the client, the logbook and the requests under an address can work with. -/
structure IsFit (x : Settings) : Prop where
  url : x.api.url.toList.getLast? ≠ some '/'
  /-- A request that can be made is made once at least. -/
  attempts : ∀ (σ : Type) (c : Client) (verb : Verb) (path : String) (body : Option (List UInt8))
    (w : World σ) (s : σ) (q : Request), c.connection = x.api → c.request verb path body = .ok q →
    ∃ n ≤ x.api.maxRetries, (c.exchange verb path body w s).events.filterMap Event.request? =
      List.replicate (n + 1) q
  level : ∃ severity : Severity, x.logLevel = severity.name
  upperCased : upper x.logLevel = x.logLevel
  /-- The logbook is set to the level in force. -/
  configures : ∃ severity : Severity, x.effectiveLevel = severity.name ∧
    ∀ (b : Logbook) (stream : String),
      (b.configure (.text x.effectiveLevel) stream).1 = .ok () ∧
      (b.configure (.text x.effectiveLevel) stream).2.level Logbook.package =
        .number severity.level

theorem isFit_of_check {look lookApi : String → Option Value}
    (h : Switches.check look = .good x.toSwitches) (hapi : Connection.check lookApi = .good x.api) :
    x.IsFit where
  url := Connection.url_of_check hapi
  attempts σ c verb path body w s q hc hq := hc ▸ Client.requests_le hq
  level := Switches.severity_of_check h
  upperCased := by
    obtain ⟨severity, hs⟩ := Switches.severity_of_check h
    rw [hs, Logbook.upper_name]
  configures := by
    obtain ⟨severity, hs⟩ := Switches.effective_of_check h
    refine ⟨severity, hs, fun b stream => ?_⟩
    rw [hs]
    exact Logbook.configure_name b severity stream

/-! Another level for settings that load. -/

theorem readApi_error {keepsCase : Bool} {origin : Origin} {o : Option Value} {f : Failure}
    (h : readApi keepsCase origin o = .error f) : f = .unreadableSetting "api" origin := by
  unfold readApi at h
  split at h
  · split at h
    · cases h; rfl
    · cases h
    · cases h
  · cases h

theorem givenApi_error {f : Failure} (h : givenApi given s = .error f) :
    ∃ origin, f = .unreadableSetting "api" origin := by
  rcases error_of_bind h with h | ⟨named, -, h⟩
  · exact ⟨_, readApi_error h⟩
  · rcases error_of_bind h with h | ⟨filed, -, h⟩
    · exact ⟨_, readApi_error h⟩
    · cases h

theorem loadWith_of_ok {switches : Checked Switches} {api : Option Value}
    (h : loadWith switches s api = .ok x) (others : Checked Switches) :
    loadWith others s api = verdict "Settings" ((mk · x.api) <$> others) := by
  have hmap (a : Connection) : mk <$> others <*> Checked.good a = (mk · a) <$> others := by
    cases others with
    | good y => rfl
    | bad is => exact congrArg Checked.bad (List.append_nil _)
  cases api with
  | none =>
    obtain ⟨a, ha, h⟩ := ok_of_bind h
    obtain ⟨f, b, hf, hb, rfl⟩ := Checked.good_of_seq (verdict_ok h)
    obtain ⟨y, -, rfl⟩ := Checked.good_of_map hf
    cases hb
    rw [loadWith, ha]
    exact congrArg (verdict "Settings") (hmap a)
  | some v =>
    obtain ⟨f, a, hf, ha, rfl⟩ := Checked.good_of_seq (verdict_ok h)
    obtain ⟨y, -, rfl⟩ := Checked.good_of_map hf
    rw [loadWith, ha, hmap]

/-- What is wrong with a connection is found under its name. -/
theorem place_of_checkApi {v : Value} {i : Issue} (h : i ∈ (checkApi s v).issues) :
    ∃ rest, i.place = .key "api" :: rest := by
  unfold checkApi at h
  split at h
  · exact Checked.place_of_within h
  · obtain rfl := List.mem_singleton.mp h
    exact ⟨[], rfl⟩

/-- What is wrong with settings is wrong with their own parts or under the connection. -/
theorem issues_of_loadWith {switches : Checked Switches} {api : Option Value} {issues : List Issue}
    (h : loadWith switches s api = .error (.rejected ⟨"Settings", issues⟩)) :
    ∃ others, issues = switches.issues ++ others ∧
      ∀ i ∈ others, ∃ rest, i.place = .key "api" :: rest := by
  cases api with
  | none =>
    rcases error_of_bind h with h | ⟨a, -, h⟩
    · exact absurd (issues_of_verdict h).1 (by decide)
    · refine ⟨[], ?_, nofun⟩
      rw [← (issues_of_verdict h).2, Checked.issues_seq, Checked.issues_map]
      rfl
  | some v =>
    refine ⟨(checkApi s v).issues, ?_, fun i => place_of_checkApi⟩
    rw [← (issues_of_verdict h).2, Checked.issues_seq, Checked.issues_map]

theorem forSettings_level (v : Value) :
    Lookup.forSettings (("log_level", v) :: given) = Lookup.forSettings given := by
  simp [Lookup.forSettings, Lookup.adjusted, Lookup.adjusted.text?, Lookup.adjusted.flag?,
    List.lookup_cons]

theorem part?_level (l : Lookup) (v : Value) (name : String) :
    l.part? (("log_level", v) :: given) name =
      if name = "log_level" then some v else l.part? given name := by
  have hfold : l.fold "log_level" = "log_level" := by
    have hlower : lower "log_level" = "log_level" := by decide +kernel
    rw [Lookup.fold, hlower, ite_self]
  by_cases hn : name = "log_level"
  · rw [Lookup.part?, List.find?_cons, hfold, hn, beq_self_eq_true, if_pos rfl]
    rfl
  · rw [Lookup.part?, List.find?_cons, hfold, beq_eq_false_iff_ne.mpr (Ne.symm hn), if_neg hn]
    rfl

theorem value?_level (s : Sources) (l : Lookup) (v : Value) (name : String) :
    s.value? l (("log_level", v) :: given) name =
      if name = "log_level" then some v else s.value? l given name := by
  rw [Sources.value?, part?_level]
  by_cases hn : name = "log_level"
  · rw [if_pos hn, if_pos hn]
    rfl
  · rw [if_neg hn, if_neg hn]
    rfl

theorem givenApi_level (v : Value) (s : Sources) :
    givenApi (("log_level", v) :: given) s = givenApi given s := by
  rw [givenApi, givenApi, forSettings_level, part?_level, if_neg (by decide)]

/-- A level that is given in front of all else goes before any other. -/
theorem load_level (h : load given s = .ok x) (t : String) :
    load (("log_level", .text t) :: given) s = verdict "Settings" ((mk · x.api) <$>
      Switches.check (s.value? (Lookup.forSettings given) (("log_level", .text t) :: given))) := by
  obtain ⟨api, hapi, -⟩ := check_of_load h
  rw [load_eq, hapi] at h
  rw [load_eq, givenApi_level, hapi, forSettings_level]
  exact loadWith_of_ok h _

/-- Settings that load are as good with another level, if the logbook knows that. -/
theorem load_other_level (h : load given s = .ok x) (t : String) :
    (Logbook.Accepts (.text (upper t)) →
      load (("log_level", .text t) :: given) s = .ok { x with logLevel := upper t }) ∧
    (¬ Logbook.Accepts (.text (upper t)) → load (("log_level", .text t) :: given) s =
      .error (.rejected ⟨"Settings", [Switches.unknownLevel t]⟩)) := by
  obtain ⟨-, -, hswitches, -⟩ := check_of_load h
  rw [load_level h t]
  have hdebug : s.value? (Lookup.forSettings given) (("log_level", .text t) :: given) "debug" =
      s.value? (Lookup.forSettings given) given "debug" := by
    rw [value?_level, if_neg (by decide)]
  have hlevel : s.value? (Lookup.forSettings given) (("log_level", .text t) :: given)
      "log_level" = some (.text t) := by
    rw [value?_level, if_pos rfl]
  obtain ⟨haccepted, hrefused⟩ := Switches.check_of_level hswitches hdebug hlevel
  exact ⟨fun ha => by rw [haccepted ha]; rfl, fun hn => by rw [hrefused hn]; rfl⟩

/-- Among what is wrong with settings is their level, if the logbook does not know it. -/
theorem unknownLevel_mem_iff {issues : List Issue}
    (ht : s.value? (Lookup.forSettings given) given "log_level" = some (.text t))
    (h : load given s = .error (.rejected ⟨"Settings", issues⟩)) :
    Switches.unknownLevel t ∈ issues ↔ ¬ Logbook.Accepts (.text (upper t)) := by
  rw [load_eq] at h
  rcases error_of_bind h with h | ⟨api, -, h⟩
  · obtain ⟨origin, hf⟩ := givenApi_error h
    cases hf
  · obtain ⟨others, rfl, hothers⟩ := issues_of_loadWith h
    have hnot : Switches.unknownLevel t ∉ others := fun hm => by
      obtain ⟨rest, hplace⟩ := hothers _ hm
      exact absurd hplace (by simp [Switches.unknownLevel])
    rw [List.mem_append, or_iff_left hnot]
    exact Switches.unknownLevel_mem_iff ht

/-- Settings that load are fit for use, wherever they come from. A text is taken for the level if
and only if its upper case is a level that the logbook can be configured with: it then counts in
upper case, and otherwise it is what is wrong, and nothing else in settings that load without it. -/
theorem fit_of_load (given : Pairs Value) (e : Environment) :
    let s := e.sources
    let look := s.value? (Lookup.forSettings given) given
    let members := givenMembers given s
    (∀ x, load given s = .ok x → x.IsFit ∧
      ∀ v, s.value? (Lookup.forConnection members) members "max_retries" = some v →
        Coercion.integer v = .ok (x.api.maxRetries : Int)) ∧
    (∀ t, look "log_level" = some (.text t) →
      (∀ x, load given s = .ok x →
        Logbook.Accepts (.text (upper t)) ∧ x.logLevel = upper t) ∧
      ∀ issues, load given s = .error (.rejected ⟨"Settings", issues⟩) →
        (Switches.unknownLevel t ∈ issues ↔ ¬ Logbook.Accepts (.text (upper t)))) ∧
    ∀ x t, load given s = .ok x →
      let other := ("log_level", .text t) :: given
      (Logbook.Accepts (.text (upper t)) →
        load other s = .ok { x with logLevel := upper t }) ∧
      (¬ Logbook.Accepts (.text (upper t)) →
        load other s = .error (.rejected ⟨"Settings", [Switches.unknownLevel t]⟩)) := by
  intro s look members
  refine ⟨fun x hx => ?_, fun t ht => ⟨fun x hx => ?_, fun issues h => unknownLevel_mem_iff ht h⟩,
    fun x t hx => load_other_level hx t⟩
  · obtain ⟨api, hapi, hswitches, hconnection⟩ := check_of_load hx
    rw [← givenMembers_of_ok hapi] at hconnection
    exact ⟨isFit_of_check hswitches hconnection,
      fun v => Connection.maxRetries_of_check hconnection⟩
  · obtain ⟨-, -, hswitches, -⟩ := check_of_load hx
    exact Switches.level_of_check hswitches ht

/-- A level with a letter whose upper case is ASCII, and one with a ligature that is no level. -/
theorem fit_of_load_dotless :
    let given : Pairs Value := [("log_level", .text "\u0131nfo"),
      ("api", .object [("url", .text "https://h//"), ("max_retries", .text "0")])]
    let e : Environment := ⟨[("CIRCONUS_API_LOG_LEVEL", "warn")], none⟩
    (∃ x, load given e.sources = .ok x ∧ x.IsFit ∧ x.logLevel = "INFO" ∧ x.api.url = "https://h" ∧
      Logbook.Accepts (.text "INFO")) ∧
    load (("log_level", .text "\uFB00") :: given) e.sources =
      .error (.rejected ⟨"Settings", [Switches.unknownLevel "\uFB00"]⟩) := by
  intro given e
  obtain ⟨hfit, hlevel, hother⟩ := fit_of_load given e
  have hload : (load given e.sources).toOption.map (·.api.url) = some "https://h" := by
    decide +kernel
  obtain ⟨x, hx, hurl⟩ := Option.map_eq_some_iff.mp hload
  have hx := ok_of_toOption hx
  have hupper : upper "\u0131nfo" = "INFO" := by decide +kernel
  obtain ⟨haccepts, hname⟩ := (hlevel "\u0131nfo" rfl).1 x hx
  rw [hupper] at haccepts hname
  refine ⟨⟨x, hx, (hfit x hx).1, hname, hurl, haccepts⟩, (hother x _ hx).2 ?_⟩
  rw [Logbook.accepts_upper_iff]
  decide +kernel

end Settings
end Outlier

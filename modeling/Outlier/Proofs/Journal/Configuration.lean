import Outlier.Proofs.Journal.Hierarchy

/-! Configuring the logbook again and again. The handler of this library is the newest one, and what
comes from elsewhere stays as it is. -/
namespace Outlier.Logbook

/-- What is done about a logbook. Handlers from elsewhere may come at any time. -/
inductive Deed where
  | configure (level : Value) (stream : String)
  | attach (number : Nat)
  | attachToRoot (number : Nat)
  | log (name : String) (level : Level) (message : String)

namespace Deed

def after (b : Logbook) : Deed → Logbook
  | .configure level stream => (b.configure level stream).2
  | .attach number => b.addHandler (.foreign number)
  | .attachToRoot number => { b with rootHandlers := b.rootHandlers ++ [.foreign number] }
  | .log name level message => (b.log name level message).2

def isConfiguration : Deed → Bool
  | .configure .. => true
  | _ => false

def attached? : Deed → Option Handler
  | .attach number => some (.foreign number)
  | _ => none

def attachedToRoot? : Deed → Option Handler
  | .attachToRoot number => some (.foreign number)
  | _ => none

/-- The level and the stream in force after a deed. A configuration that fails leaves none. -/
def setting (before : Option (Level × String)) : Deed → Option (Level × String)
  | .configure level stream => (levelOf level).toOption.map (·, stream)
  | _ => before

end Deed

def follow (history : List Deed) : Logbook := history.foldl Deed.after .start

/-- The level and the stream of the last configuration, unless it failed. -/
def latest? (history : List Deed) : Option (Level × String) := history.foldl Deed.setting none

variable {b : Logbook} {name other : String} {level : Level} {stream message : String}
  {given : Value} {m : Misuse} {history later : List Deed} {d : Deed}

/-! What a configuration leaves behind. -/

theorem configure_ok (h : levelOf given = .ok level) :
    b.configure given stream = (.ok (), b.dropOwn.finish level stream) := by
  rw [configure, h]

theorem configure_error (h : levelOf given = .error m) :
    b.configure given stream = (.error m, b.dropOwn) := by
  rw [configure, h]

theorem levelOf_of_configure_error (h : (b.configure given stream).1 = .error m) :
    levelOf given = .error m := by
  cases hl : levelOf given with
  | ok level => rw [configure_ok hl] at h; cases h
  | error e => rw [configure_error hl] at h; cases h; rfl

theorem handlers_finish : (b.finish level stream).handlers = b.handlers ++ [.own stream] := rfl

theorem levels_finish : (b.finish level stream).levels =
    Pairs.put "httpcore" (.number Severity.warning.level)
      (Pairs.put "httpx" (.number Severity.warning.level) (Pairs.put package level b.levels)) := rfl

theorem level_finish_package : (b.finish level stream).level package = level := by
  rw [Logbook.level, levels_finish, Pairs.lookup_put_of_ne (by decide),
    Pairs.lookup_put_of_ne (by decide), Pairs.lookup_put_self]
  rfl

theorem level_finish_transports :
    ∀ t ∈ transports, (b.finish level stream).level t = .number Severity.warning.level := by
  have hx : (b.finish level stream).level "httpx" = .number Severity.warning.level := by
    rw [Logbook.level, levels_finish, Pairs.lookup_put_of_ne (by decide), Pairs.lookup_put_self]
    rfl
  have hcore : (b.finish level stream).level "httpcore" = .number Severity.warning.level := by
    rw [Logbook.level, levels_finish, Pairs.lookup_put_self]
    rfl
  simp [transports, hx, hcore]

theorem onlyKnownLevels_finish (h : b.OnlyKnownLevels) :
    (b.finish level stream).OnlyKnownLevels := by
  intro name hn
  rw [levels_finish] at hn
  rcases Pairs.mem_names_put hn with rfl | hn
  · exact .inr (by decide)
  rcases Pairs.mem_names_put hn with rfl | hn
  · exact .inr (by decide)
  rcases Pairs.mem_names_put hn with rfl | hn
  · exact .inl rfl
  · exact h name hn

theorem dropOwn_dropOwn (b : Logbook) : b.dropOwn.dropOwn = b.dropOwn := by
  simp [dropOwn, List.filter_filter]

theorem own_dropOwn (b : Logbook) : b.dropOwn.handlers.filter (·.isOwn) = [] := by
  simp [dropOwn, List.filter_filter]

theorem foreign_dropOwn (b : Logbook) :
    b.dropOwn.handlers.filter (!·.isOwn) = b.handlers.filter (!·.isOwn) := by
  simp [dropOwn, List.filter_filter]

theorem dropOwn_eq_self_iff : b.dropOwn = b ↔ b.handlers.filter (·.isOwn) = [] := by
  constructor
  · intro h
    rw [← h]
    exact own_dropOwn b
  · intro h
    have hall : b.handlers.filter (!·.isOwn) = b.handlers := by
      rw [List.filter_eq_self]
      intro x hx
      simpa using List.filter_eq_nil_iff.mp h x hx
    rw [dropOwn, hall]

/-! What logging leaves behind: nothing but a logger that is met and an answer. -/

theorem meet_eq (b : Logbook) (name : String) :
    ∃ new, b.meet name = { b with loggers := b.loggers ++ new } := by
  unfold meet
  split
  · exact ⟨[], by rw [List.append_nil]⟩
  · exact ⟨[name], rfl⟩

theorem ask_eq (b : Logbook) (name : String) (n : Int) :
    ∃ answers, b.ask name n = { b with answers } := by
  unfold ask
  split
  · exact ⟨b.answers, rfl⟩
  · exact ⟨_, rfl⟩

theorem lookup_ask {n k : Int} {answer : Bool}
    (h : (b.ask name n).answers.lookup (other, k) = some answer) :
    b.answers.lookup (other, k) = some answer ∨
      other = name ∧ k = n ∧ answer = b.isEnabled name n := by
  unfold ask at h
  split at h
  · exact .inl h
  · rw [List.lookup_cons] at h
    split at h
    · rename_i he
      obtain ⟨rfl, rfl⟩ := Prod.mk.inj (beq_iff_eq.mp he)
      cases h
      exact .inr ⟨rfl, rfl, rfl⟩
    · exact .inl h

/-! What stays true of a logbook whatever is done. -/

/-- Answers that are kept are those that would be found again, for loggers below the package. -/
def AnswersRightly (b : Logbook) : Prop :=
  ∀ name level answer, IsBelow name → b.answers.lookup (name, level) = some answer →
    answer = Row.enabled (Severity.effective (b.level package).toInt) level

/-- Only levels that matter are set, and no answer outlives them. -/
structure IsSound (b : Logbook) : Prop where
  known : package ∈ b.loggers
  levels : b.OnlyKnownLevels
  answers : b.AnswersRightly

theorem IsSound.isEnabled (h : b.IsSound) (hn : IsBelow name) (n : Int) :
    b.isEnabled name n = Row.enabled (Severity.effective (b.level package).toInt) n := by
  unfold Logbook.isEnabled
  cases hk : b.answers.lookup (name, n) with
  | some answer => exact h.answers name n answer hn hk
  | none => rw [effectiveLevel_of_descends h.levels (hn.descends h.known)]; rfl

theorem IsSound.meet (h : b.IsSound) (name : String) : (b.meet name).IsSound := by
  obtain ⟨new, hb⟩ := meet_eq b name
  rw [hb]
  exact ⟨List.mem_append_left _ h.known, h.levels, h.answers⟩

theorem IsSound.ask (h : b.IsSound) (name : String) (n : Int) : (b.ask name n).IsSound := by
  -- An answer that is new is the one that the level in force gives, and older ones stay.
  have hrightly : ∀ other k answer, IsBelow other →
      (b.ask name n).answers.lookup (other, k) = some answer →
      answer = Row.enabled (Severity.effective (b.level package).toInt) k := by
    intro other k answer ho hk
    rcases lookup_ask hk with hk | ⟨rfl, rfl, rfl⟩
    · exact h.answers other k answer ho hk
    · exact h.isEnabled ho k
  obtain ⟨answers, hb⟩ := ask_eq b name n
  rw [hb] at hrightly ⊢
  exact ⟨h.known, h.levels, hrightly⟩

/-! What each deed does. -/

namespace Deed

theorem log_eq (b : Logbook) (name : String) (level : Level) (message : String) :
    ∃ loggers answers, (Deed.log name level message).after b = { b with loggers, answers } := by
  obtain ⟨new, hmet⟩ := meet_eq b name
  obtain ⟨answers, hasked⟩ := ask_eq (b.meet name) name level.toInt
  refine ⟨b.loggers ++ new, answers, hasked.trans ?_⟩
  rw [hmet]

theorem isSound_after (h : b.IsSound) (d : Deed) : (d.after b).IsSound := by
  cases d with
  | configure given stream =>
    cases hl : levelOf given with
    | error m =>
      rw [after, configure_error hl]
      exact ⟨h.known, h.levels, h.answers⟩
    | ok level =>
      rw [after, configure_ok hl]
      exact ⟨h.known, onlyKnownLevels_finish h.levels, nofun⟩
  | attach number => exact ⟨h.known, h.levels, h.answers⟩
  | attachToRoot number => exact ⟨h.known, h.levels, h.answers⟩
  | log name level message => exact (h.meet name).ask name level.toInt

theorem foreign_after (b : Logbook) (d : Deed) :
    (d.after b).handlers.filter (!·.isOwn) =
      b.handlers.filter (!·.isOwn) ++ d.attached?.toList := by
  cases d with
  | configure given stream =>
    cases hl : levelOf given with
    | error m =>
      rw [after, configure_error hl]
      exact (foreign_dropOwn b).trans (List.append_nil _).symm
    | ok level =>
      rw [after, configure_ok hl, handlers_finish, List.filter_append, foreign_dropOwn]
      rfl
  | attach number => exact List.filter_append ..
  | attachToRoot number => exact (List.append_nil _).symm
  | log name level message =>
    obtain ⟨_, _, hb⟩ := log_eq b name level message
    rw [hb]
    exact (List.append_nil _).symm

theorem root_after (b : Logbook) (d : Deed) :
    (d.after b).rootHandlers = b.rootHandlers ++ d.attachedToRoot?.toList := by
  cases d with
  | configure given stream =>
    cases hl : levelOf given with
    | error m =>
      rw [after, configure_error hl]
      exact (List.append_nil _).symm
    | ok level =>
      rw [after, configure_ok hl]
      exact (List.append_nil _).symm
  | attach number => exact (List.append_nil _).symm
  | attachToRoot number => rfl
  | log name level message =>
    obtain ⟨_, _, hb⟩ := log_eq b name level message
    rw [hb]
    exact (List.append_nil _).symm

end Deed

/-- What is in force, if anything: its stream has the one handler of this library. -/
structure Serves (b : Logbook) (now : Option (Level × String)) : Prop where
  own : b.handlers.filter (·.isOwn) = now.toList.map (.own ·.2)
  level : ∀ x ∈ now, b.level package = x.1
  transports : ∀ x ∈ now, ∀ t ∈ transports, b.level t = .number Severity.warning.level

theorem Deed.serves_after {now : Option (Level × String)} (h : b.Serves now) (d : Deed) :
    (d.after b).Serves (d.setting now) := by
  cases d with
  | configure given stream =>
    cases hl : levelOf given with
    | error m =>
      rw [after, configure_error hl, setting, hl]
      exact ⟨own_dropOwn b, nofun, nofun⟩
    | ok level =>
      rw [after, configure_ok hl, setting, hl]
      refine ⟨?_, ?_, fun _ _ => level_finish_transports⟩
      · rw [handlers_finish, List.filter_append, own_dropOwn]
        rfl
      · rintro _ ⟨⟩
        exact level_finish_package
  | attach number =>
    refine ⟨?_, h.level, h.transports⟩
    rw [after, addHandler, List.filter_append, h.own]
    exact List.append_nil _
  | attachToRoot number => exact ⟨h.own, h.level, h.transports⟩
  | log name level message =>
    obtain ⟨_, _, hb⟩ := log_eq b name level message
    rw [hb]
    exact ⟨h.own, h.level, h.transports⟩

/-! What is known of a logbook from its history. -/

structure Follows (history : List Deed) (b : Logbook) : Prop where
  sound : b.IsSound
  serves : b.Serves (latest? history)
  foreign : b.handlers.filter (!·.isOwn) = history.filterMap Deed.attached?
  root : b.rootHandlers = history.filterMap Deed.attachedToRoot?

theorem latest?_concat : latest? (history ++ [d]) = d.setting (latest? history) := by
  simp [latest?]

theorem filterMap_concat (f : Deed → Option Handler) :
    (history ++ [d]).filterMap f = history.filterMap f ++ (f d).toList := by
  cases h : f d <;> simp [h]

namespace Follows

theorem start : Follows [] .start where
  sound := ⟨by decide, nofun, nofun⟩
  serves := ⟨rfl, nofun, nofun⟩
  foreign := rfl
  root := rfl

theorem meet (h : Follows history b) (name : String) : Follows history (b.meet name) := by
  have hsound := h.sound.meet name
  obtain ⟨new, hb⟩ := meet_eq b name
  rw [hb] at hsound ⊢
  exact ⟨hsound, ⟨h.serves.own, h.serves.level, h.serves.transports⟩, h.foreign, h.root⟩

theorem step (h : Follows history b) (d : Deed) : Follows (history ++ [d]) (d.after b) where
  sound := d.isSound_after h.sound
  serves := by rw [latest?_concat]; exact d.serves_after h.serves
  foreign := by rw [d.foreign_after, filterMap_concat, h.foreign]
  root := by rw [d.root_after, filterMap_concat, h.root]

theorem run (h : Follows history b) (later : List Deed) :
    Follows (history ++ later) (later.foldl Deed.after b) := by
  induction later generalizing history b with
  | nil => simpa using h
  | cons d later ih => simpa using ih (h.step d)

end Follows

theorem follows_follow (history : List Deed) : Follows history (follow history) :=
  Follows.start.run history

theorem latest?_of_setting {now : Option (Level × String)}
    (hd : ∀ before, d.setting before = now) (hl : ∀ e ∈ later, e.isConfiguration = false) :
    latest? (history ++ d :: later) = now := by
  have hkeep : later.foldl Deed.setting now = now := by
    clear hd
    induction later with
    | nil => rfl
    | cons e later ih =>
      have he : e.setting now = now := by
        cases e with
        | configure => cases hl _ List.mem_cons_self
        | attach | attachToRoot | log => rfl
      rw [List.foldl_cons, he]
      exact ih fun e h => hl e (List.mem_cons_of_mem _ h)
  rw [latest?, List.foldl_append, List.foldl_cons, hd, hkeep]

/-! What is written of a row: handlers from elsewhere write nothing here. -/

theorem filterMap_written (hs : List Handler) (name label message : String) :
    hs.filterMap (written name label message) =
      (hs.filter (·.isOwn)).filterMap (written name label message) := by
  rw [List.filterMap_filter]
  congr 1
  funext x
  cases x <;> rfl

theorem own_root (h : Follows history b) : b.rootHandlers.filter (·.isOwn) = [] := by
  rw [h.root, List.filter_eq_nil_iff]
  intro x hx
  obtain ⟨d, -, hd⟩ := List.mem_filterMap.mp hx
  cases d <;> cases hd
  exact nofun

theorem own_reached (h : Follows history b) (name : String) :
    (b.reached name).filter (·.isOwn) =
      if b.Descends name then (latest? history).toList.map (.own ·.2) else [] := by
  rw [reached, List.filter_append, own_root h, List.append_nil]
  by_cases hd : b.Descends name
  · rw [if_pos hd, if_pos (List.contains_iff_mem.mpr hd), h.serves.own]
  · rw [if_neg hd, if_neg fun hc => hd (List.contains_iff_mem.mp hc)]
    rfl

/-- A row of a logger under the package goes to the stream in force, and no other row anywhere. -/
theorem lines_eq (h : Follows history b) (name : String) (level : Level) (message : String) :
    b.lines name level message =
      if b.Descends name ∧ b.isEnabled name level.toInt = true then
        (latest? history).toList.map fun s => ⟨s.2, name, level.label, message⟩
      else [] := by
  rw [lines, filterMap_written, own_reached h]
  by_cases hd : b.Descends name <;> by_cases he : b.isEnabled name level.toInt = true
  · rw [if_pos he, if_pos hd, if_pos ⟨hd, he⟩]
    cases latest? history <;> rfl
  · rw [if_neg he, if_neg fun hc => he hc.2]
  · rw [if_pos he, if_neg hd, if_neg fun hc => hd hc.1]
    rfl
  · rw [if_neg he, if_neg fun hc => he hc.2]

/-- Whatever came before a configuration, and whatever else comes after it: the package has one
handler of this library, which writes to the stream given last, and all handlers from elsewhere in
the order in which they came; those of the root are left alone. Each row of a logger under the
package that is enabled goes to that stream once, and no other row goes anywhere. The level in force
decides what is enabled, unless the name of the logger has two dots in a row: such a logger may come
under the package late and keep an answer from before. -/
theorem newest_in_force (before later : List Deed) (given : Value) (level : Level)
    (stream : String) (hl : levelOf given = .ok level)
    (hlater : ∀ d ∈ later, d.isConfiguration = false) :
    let history := before ++ .configure given stream :: later
    let b := follow history
    b.handlers.filter (·.isOwn) = [.own stream] ∧
    b.handlers.filter (!·.isOwn) = history.filterMap Deed.attached? ∧
    b.rootHandlers = history.filterMap Deed.attachedToRoot? ∧
    b.level package = level ∧
    (∀ t ∈ transports, b.level t = .number Severity.warning.level) ∧
    ∀ name, let met := b.meet name
      (met.Descends name → met.effectiveLevel name = Severity.effective level.toInt) ∧
      (IsBelow name → met.Descends name ∧
        ∀ n, met.isEnabled name n = Row.enabled (met.effectiveLevel name) n) ∧
      ∀ rowLevel message, (b.log name rowLevel message).1 =
        if met.Descends name ∧ met.isEnabled name rowLevel.toInt = true then
          [⟨stream, name, rowLevel.label, message⟩]
        else [] := by
  intro history b
  have h : Follows history b := follows_follow history
  have hlatest : latest? history = some (level, stream) :=
    latest?_of_setting (fun _ => by rw [Deed.setting, hl]; rfl) hlater
  have hserves : b.Serves (some (level, stream)) := hlatest ▸ h.serves
  refine ⟨hserves.own, h.foreign, h.root, hserves.level _ rfl, hserves.transports _ rfl,
    fun name => ?_⟩
  have hmet := h.meet name
  have hlevel : (b.meet name).level package = level :=
    (hlatest ▸ hmet.serves : (b.meet name).Serves (some (level, stream))).level _ rfl
  have heffective (hd : (b.meet name).Descends name) :
      (b.meet name).effectiveLevel name = Severity.effective level.toInt := by
    rw [effectiveLevel_of_descends hmet.sound.levels hd, hlevel]
  refine ⟨heffective, fun hn => ?_, fun rowLevel message => ?_⟩
  · have hd := hn.descends hmet.sound.known
    exact ⟨hd, fun n => by rw [hmet.sound.isEnabled hn, heffective hd, hlevel]⟩
  · rw [log, lines_eq hmet, hlatest]
    rfl

/-- A second configuration and a handler that came before it, seen from a logger of a client. -/
theorem newest_in_force_replaced :
    let before := [Deed.configure (.int 10) "a", .attach 7]
    let later := [Deed.log "circonus_client.boundary" (.number 10) "sent"]
    let b := follow (before ++ .configure (.int 20) "b" :: later)
    b.handlers.filter (·.isOwn) = [.own "b"] ∧
    (b.log "circonus_client.boundary" (.number 30) "retry").1 =
      [⟨"b", "circonus_client.boundary", "WARNING", "retry"⟩] ∧
    (b.log "circonus_client.boundary" (.number 10) "sent").1 = [] := by
  intro before later b
  obtain ⟨hown, -, -, -, -, hrows⟩ :=
    newest_in_force before later (.int 20) (.number 20) "b" rfl
      (by simp [later, Deed.isConfiguration])
  obtain ⟨hlevel, hbelow, hlog⟩ := hrows "circonus_client.boundary"
  obtain ⟨hd, he⟩ :=
    hbelow ⟨by decide +kernel, .inr ⟨"boundary".toList, by decide +kernel⟩⟩
  rw [hlevel hd] at he
  refine ⟨hown, ?_, ?_⟩
  · rw [hlog, if_pos ⟨hd, (he 30).trans (by decide)⟩]
    rfl
  · rw [hlog, if_neg fun hc => absurd ((he 10).symm.trans hc.2) (by decide)]

/-- A logger that came under the package after it was asked still gives the answer from before. -/
theorem kept_answer_not_in_force :
    let name := "circonus_client..x"
    let b := follow [.configure (.int 10) "a", .log name (.number 20) "m",
      .log "circonus_client." (.number 20) "m"]
    b.Descends name ∧ Row.enabled (b.effectiveLevel name) 20 = true ∧
    (b.log name (.number 20) "m").1 = [] := by
  decide +kernel

/-- A configuration that fails takes the handler of this library away and puts none in its place, so
that nothing is written until the next one. It changes nothing else, and the next one makes up for
it. -/
theorem failed_configuration (history : List Deed) (given : Value) (stream : String) (m : Misuse)
    (h : ((follow history).configure given stream).1 = .error m) :
    let b := follow history
    let failed := (b.configure given stream).2
    failed = { b with handlers := b.handlers.filter (!·.isOwn) } ∧
    (failed = b ↔ latest? history = none) ∧
    (∀ later : List Deed, (∀ d ∈ later, d.isConfiguration = false) → ∀ name level message,
      ((later.foldl Deed.after failed).log name level message).1 = []) ∧
    ∀ next level other, levelOf next = .ok level →
      failed.configure next other = b.configure next other := by
  intro b failed
  have hm := levelOf_of_configure_error h
  have hf : Follows history b := follows_follow history
  have hfailed : failed = b.dropOwn := congrArg Prod.snd (configure_error hm)
  refine ⟨hfailed, ?_, ?_, ?_⟩
  · rw [hfailed, dropOwn_eq_self_iff, hf.serves.own]
    cases latest? history <;> simp
  · intro later hlater name level message
    have hrun : Follows (history ++ .configure given stream :: later)
        (later.foldl Deed.after failed) := hf.run (.configure given stream :: later)
    have hnone : latest? (history ++ .configure given stream :: later) = none :=
      latest?_of_setting (fun _ => by rw [Deed.setting, hm]; rfl) hlater
    rw [log, lines_eq (hrun.meet name), hnone]
    exact ite_self _
  · intro next level other hn
    rw [hfailed, configure_ok hn, configure_ok hn, dropOwn_dropOwn]

theorem levelOf_bogus : levelOf (.text "BOGUS") = .error (.unknownLevel "BOGUS") := by
  rw [levelOf, show upper "BOGUS" = "BOGUS" by decide +kernel]
  rfl

/-- A level that is unknown, after a configuration that is in force. -/
theorem failed_configuration_unknown :
    let history := [Deed.attach 7, .configure (.int 20) "a"]
    let b := follow history
    let failed := (b.configure (.text "BOGUS") "b").2
    (b.configure (.text "BOGUS") "b").1 = .error (.unknownLevel "BOGUS") ∧
    failed ≠ b ∧ failed.handlers = b.handlers.filter (!·.isOwn) ∧
    (failed.log package (.number 40) "lost").1 = [] := by
  intro history b failed
  have h : (b.configure (.text "BOGUS") "b").1 = .error (.unknownLevel "BOGUS") :=
    congrArg Prod.fst (configure_error levelOf_bogus)
  obtain ⟨hfailed, hsame, hnone, -⟩ := failed_configuration history _ _ _ h
  refine ⟨h, fun hc => ?_, congrArg Logbook.handlers hfailed, ?_⟩
  · exact absurd (hsame.mp hc) (by decide +kernel)
  · exact hnone [] nofun package (.number 40) "lost"

/-- A row that was written before a configuration failed is lost after it. -/
theorem configuration_not_atomic :
    let b := follow [.configure (.int 20) "a"]
    let failed := (b.configure (.text "BOGUS") "b").2
    (b.configure (.text "BOGUS") "b").1 = .error (.unknownLevel "BOGUS") ∧
    b.handlers = [.own "a"] ∧ failed.handlers = [] ∧
    (b.log package (.number 40) "m").1 = [⟨"a", package, "ERROR", "m"⟩] ∧
    (failed.log package (.number 40) "m").1 = [] := by
  refine ⟨congrArg Prod.fst (configure_error levelOf_bogus), ?_⟩
  decide +kernel

end Outlier.Logbook

import Outlier.Proofs.Activity
import Outlier.Journal.Logbook
import Outlier.Settings.Load

/-! Settings that have been loaded: where each of their parts comes from. -/
namespace Outlier

namespace Checked
variable {α β : Type} {b : β}

theorem good_of_seq {f : Checked (α → β)} {a : Checked α} (h : f <*> a = .good b) :
    ∃ g x, f = .good g ∧ a = .good x ∧ b = g x := by
  cases f with
  | bad is => cases h
  | good g =>
    cases a with
    | bad is => cases h
    | good x => cases h; exact ⟨g, x, rfl, rfl, rfl⟩

theorem good_of_map {f : α → β} {a : Checked α} (h : f <$> a = .good b) :
    ∃ x, a = .good x ∧ b = f x := by
  obtain ⟨g, x, hg, hx, rfl⟩ := good_of_seq h
  cases hg
  exact ⟨x, hx, rfl⟩

theorem good_of_part {name : String} {absent : β} {read : Value → Coercion.Result β}
    {given : Option Value} (h : part name absent read given = .good b) :
    given = none ∧ b = absent ∨ ∃ v, given = some v ∧ read v = .ok b := by
  unfold part at h
  split at h
  · cases h
    exact .inl ⟨rfl, rfl⟩
  next v =>
    split at h
    next a ha =>
      cases h
      exact .inr ⟨v, rfl, ha⟩
    · cases h

/-- What holds of a default and of everything that is read holds of a part. -/
theorem holds_of_part {P : β → Prop} {name : String} {absent : β}
    {read : Value → Coercion.Result β} {given : Option Value}
    (h : part name absent read given = .good b) (habsent : P absent)
    (hread : ∀ v b, read v = .ok b → P b) : P b := by
  rcases good_of_part h with ⟨-, rfl⟩ | ⟨v, -, hv⟩
  · exact habsent
  · exact hread v b hv

end Checked

theorem verdict_ok {α : Type} {title : String} {c : Checked α} {a : α}
    (h : verdict title c = .ok a) : c = .good a := by
  cases c with
  | good x => cases h; rfl
  | bad is => cases h

/-! The level in force is one that the logbook knows. -/

/-- The logbook can be configured with the level. -/
def Switches.IsKnown (x : Switches) : Prop :=
  ∃ level, Logbook.levelOf (.text x.effectiveLevel) = .ok level

namespace Switches
variable {look : String → Option Value} {x : Switches}

theorem levelOf_name (severity : Severity) :
    ∃ level, Logbook.levelOf (.text severity.name) = .ok level := by
  cases severity <;> exact ⟨_, rfl⟩

theorem name_of_readLevel {v : Value} {level : String} (h : readLevel v = .ok level) :
    ∃ severity : Severity, level = severity.name := by
  obtain ⟨given, -, h⟩ := ok_of_bind h
  split at h
  next hknown =>
    cases h
    obtain ⟨severity, hs⟩ := Option.isSome_iff_exists.mp hknown
    have hname := List.find?_some hs
    exact ⟨severity, (beq_iff_eq.mp hname).symm⟩
  · cases h

theorem severity_of_check (h : check look = .good x) :
    ∃ severity : Severity, x.logLevel = severity.name := by
  obtain ⟨f, level, hf, hlevel, rfl⟩ := Checked.good_of_seq h
  obtain ⟨debug, -, rfl⟩ := Checked.good_of_map hf
  exact Checked.holds_of_part (P := fun level => ∃ s : Severity, level = s.name)
    hlevel ⟨.info, rfl⟩ fun _ _ => name_of_readLevel

theorem effective_of_check (h : check look = .good x) :
    ∃ severity : Severity, x.effectiveLevel = severity.name := by
  unfold effectiveLevel
  split
  · exact ⟨.debug, rfl⟩
  · exact severity_of_check h

theorem isKnown_of_check (h : check look = .good x) : x.IsKnown := by
  obtain ⟨severity, hs⟩ := effective_of_check h
  rw [IsKnown, hs]
  exact levelOf_name severity

end Switches

namespace Connection
variable {look : String → Option Value} {x : Connection} {a : String}

/-- Each part of a connection is read from what is looked up for it. -/
structure IsRead (look : String → Option Value) (x : Connection) : Prop where
  switches : Switches.check look = .good x.toSwitches
  token : Checked.part "token" "" Coercion.text (look "token") = .good x.token
  appName : Checked.part "app_name" defaultAppName Coercion.text (look "app_name") = .good x.appName
  accountId : Checked.part "account_id" none nullable (look "account_id") = .good x.accountId
  url : Checked.part "url" defaultUrl readUrl (look "url") = .good x.url
  timeout : Checked.part "timeout" 30 readPositive (look "timeout") = .good x.timeout
  maxRetries : Checked.part "max_retries" 4 readCount (look "max_retries") = .good x.maxRetries
  shortestWait : Checked.part "min_retry_delay" 1 readNonnegative (look "min_retry_delay") =
    .good x.shortestWait
  longestWait : Checked.part "max_retry_delay" 15 readNonnegative (look "max_retry_delay") =
    .good x.longestWait
  caFile : Checked.part "ca_file" none nullable (look "ca_file") = .good x.caFile

theorem isRead_of_check (h : check look = .good x) : IsRead look x := by
  obtain ⟨f₁, caFile, h₁, hcaFile, rfl⟩ := Checked.good_of_seq h
  obtain ⟨f₂, longestWait, h₂, hlongest, rfl⟩ := Checked.good_of_seq h₁
  obtain ⟨f₃, shortestWait, h₃, hshortest, rfl⟩ := Checked.good_of_seq h₂
  obtain ⟨f₄, maxRetries, h₄, hretries, rfl⟩ := Checked.good_of_seq h₃
  obtain ⟨f₅, timeout, h₅, htimeout, rfl⟩ := Checked.good_of_seq h₄
  obtain ⟨f₆, url, h₆, hurl, rfl⟩ := Checked.good_of_seq h₅
  obtain ⟨f₇, accountId, h₇, haccount, rfl⟩ := Checked.good_of_seq h₆
  obtain ⟨f₈, appName, h₈, happ, rfl⟩ := Checked.good_of_seq h₇
  obtain ⟨f₉, token, h₉, htoken, rfl⟩ := Checked.good_of_seq h₈
  obtain ⟨switches, hswitches, rfl⟩ := Checked.good_of_map h₉
  exact ⟨hswitches, htoken, happ, haccount, hurl, htimeout, hretries, hshortest, hlongest, hcaFile⟩

/-! The address of the service. -/

theorem trimEnd_append_replicate {s : List Char} {c : Char} (h : s.getLast? ≠ some c) (n : Nat) :
    trimEnd (· == c) (s ++ List.replicate n c) = s := by
  have hrun : ∀ d ∈ List.replicate n c, (d == c) = true := fun d hd => by
    simpa using (List.mem_replicate.mp hd).2
  have hback : s.reverse.dropWhile (· == c) = s.reverse := by
    cases hs : s.reverse with
    | nil => rfl
    | cons d t =>
      have hd : d ≠ c := by
        rintro rfl
        rw [← List.head?_reverse, hs] at h
        exact h rfl
      simp [hd]
  rw [trimEnd, List.reverse_append, List.reverse_replicate, List.dropWhile_append_of_pos hrun,
    hback, List.reverse_reverse]

/-- However many slashes are written behind an address, none of them is kept. -/
theorem url_of_slashes (h : check look = .good x) (ha : a.toList.getLast? ≠ some '/') {n : Nat}
    (hurl : Coercion.text ((look "url").getD (.text defaultUrl)) =
      .ok (a ++ String.ofList (List.replicate n '/'))) : x.url = a := by
  have htrim : String.ofList (trimEnd (· == '/')
      (a ++ String.ofList (List.replicate n '/')).toList) = a := by
    rw [String.toList_append, String.toList_ofList, trimEnd_append_replicate ha,
      String.ofList_toList]
  rcases Checked.good_of_part (isRead_of_check h).url with ⟨hnone, hx⟩ | ⟨v, hv, hread⟩
  · rw [hnone] at hurl
    have hdefault : defaultUrl = a ++ String.ofList (List.replicate n '/') := by
      exact Except.ok.inj hurl
    rw [hx, ← htrim, ← hdefault]
    decide
  · rw [hv] at hurl
    rw [readUrl, show Coercion.text v = _ from hurl] at hread
    exact (Except.ok.inj hread).symm.trans htrim

end Connection

namespace Settings
variable {x : Settings}

theorem isKnown_of_verdict {title : String} {look : String → Option Value}
    {make : Switches → Connection → Settings} {api : Checked Connection}
    (hmake : ∀ switches api, (make switches api).toSwitches = switches)
    (h : verdict title (make <$> Switches.check look <*> api) = .ok x) : x.toSwitches.IsKnown := by
  obtain ⟨f, api, hf, -, rfl⟩ := Checked.good_of_seq (verdict_ok h)
  obtain ⟨switches, hswitches, rfl⟩ := Checked.good_of_map hf
  rw [hmake]
  exact Switches.isKnown_of_check hswitches

theorem isKnown_of_load {given : Pairs Value} {s : Sources} (h : load given s = .ok x) :
    x.toSwitches.IsKnown := by
  obtain ⟨named, -, h⟩ := ok_of_bind h
  obtain ⟨filed, -, h⟩ := ok_of_bind h
  split at h
  · exact isKnown_of_verdict (fun _ _ => rfl) h
  · obtain ⟨api, -, h⟩ := ok_of_bind h
    exact isKnown_of_verdict (fun _ _ => rfl) h

end Settings
end Outlier

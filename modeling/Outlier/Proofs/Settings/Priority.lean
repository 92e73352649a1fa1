import Outlier.Proofs.Settings.Loaded
import Outlier.Proofs.Settings.Sources

/-! Settings by priority: each part is read from the first source that has it, and what comes after
that source does not matter. -/
namespace Outlier

/-- The first of several values that is there, if any is. -/
inductive IsFirst {α : Type} : List (Option α) → Option α → Prop
  | here (a : α) (rest : List (Option α)) : IsFirst (some a :: rest) (some a)
  | later {rest : List (Option α)} {o : Option α} (h : IsFirst rest o) : IsFirst (none :: rest) o
  | nowhere : IsFirst [] none

theorem isFirst_orElse {α : Type} {a o : Option α} {rest : List (Option α)} (h : IsFirst rest o) :
    IsFirst (a :: rest) (a <|> o) := by
  cases a with
  | none => exact .later h
  | some a => exact .here a rest

theorem isFirst_singleton {α : Type} (o : Option α) : IsFirst [o] o := by
  cases o with
  | none => exact .later .nowhere
  | some a => exact .here a []

namespace Lookup

/-- How the parts that settings have of their own are looked up. -/
def forSettings (given : Pairs Value) : Lookup := (standard "").adjusted given

/-- How the parts of a connection are looked up. -/
def forConnection (given : Pairs Value) : Lookup := (standard Connection.lead).adjusted given

end Lookup

namespace Sources
variable {changed : String → Bool} {s t : Sources} {l : Lookup} {given : Pairs Value}
  {names : List String} {name : String}

/-- Parts are looked up in one source after another: what is given, the variables, the file. -/
def InOrder (s : Sources) (l : Lookup) (given : Pairs Value) (look : String → Option Value) :
    Prop :=
  ∀ name, IsFirst [l.part? given name, s.named? l name, s.filed? l name] (look name)

theorem inOrder_value? (s : Sources) (l : Lookup) (given : Pairs Value) :
    s.InOrder l given (s.value? l given) := fun _ =>
  isFirst_orElse (isFirst_orElse (isFirst_singleton _))

/-- What changes about parts comes after a source that has them: they are given, or set by variables
that stay as they are. -/
def Outranked (changed : String → Bool) (s t : Sources) (l : Lookup) (given : Pairs Value)
    (names : List String) : Prop :=
  ∀ name ∈ names, changed (lower (l.lead ++ name)) = true →
    (l.part? given name).isSome = true ∨ ∃ v, s.named? l name = some v ∧ t.named? l name = some v

theorem value?_of_part {v : Value} (h : l.part? given name = some v) :
    s.value? l given name = some v := by
  rw [value?, h]
  rfl

theorem AgreeBut.value?_eq (h : s.AgreeBut changed t)
    (ho : Outranked changed s t l given names) (hn : name ∈ names) :
    s.value? l given name = t.value? l given name := by
  cases hc : changed (lower (l.lead ++ name)) with
  | false => rw [value?, value?, h.named?_eq hc, h.filed?_eq hc]
  | true =>
    rcases ho name hn hc with hpart | ⟨v, hs, ht⟩
    · obtain ⟨v, hv⟩ := Option.isSome_iff_exists.mp hpart
      rw [value?_of_part hv, value?_of_part hv]
    · rw [value?, value?, hs, ht]
      rfl

end Sources

namespace Switches

def names : List String := ["debug", "log_level"]

theorem check_congr {f g : String → Option Value} (h : ∀ name ∈ names, f name = g name) :
    check f = check g := by
  rw [check, check, h "debug" (by decide), h "log_level" (by decide)]

end Switches

namespace Connection

theorem check_congr {f g : String → Option Value} (h : ∀ name ∈ names, f name = g name) :
    check f = check g := by
  have hswitches : Switches.check f = Switches.check g :=
    Switches.check_congr (List.forall_mem_cons.mpr
      ⟨h "debug" (by decide), List.forall_mem_singleton.mpr (h "log_level" (by decide))⟩)
  rw [check, check, hswitches, h "token" (by decide), h "app_name" (by decide),
    h "account_id" (by decide), h "url" (by decide), h "timeout" (by decide),
    h "max_retries" (by decide), h "min_retry_delay" (by decide), h "max_retry_delay" (by decide),
    h "ca_file" (by decide)]

end Connection

namespace Settings
variable {given : Pairs Value} {s : Sources} {x : Settings}

/-- What is given for the connection, in whatever ways: nothing, an object, or no object at all. -/
def givenApi (given : Pairs Value) (s : Sources) : Except Failure (Option Value) := do
  let l := Lookup.forSettings given
  let named ← readApi l.keepsCase .exported (s.named? l "api")
  let filed ← readApi l.keepsCase .file (s.filed? l "api")
  return merge (merge (l.part? given "api") named) filed

def membersOf : Option Value → Pairs Value
  | some (.object members) => members
  | _ => []

/-- Settings from their own parts and what is given for the connection. -/
def loadWith (switches : Checked Switches) (s : Sources) : Option Value → Except Failure Settings
  | some v => verdict "Settings" (mk <$> switches <*> checkApi s v)
  | none => do
    let api ← Connection.load [] s
    verdict "Settings" (mk <$> switches <*> pure api)

theorem load_eq (given : Pairs Value) (s : Sources) : load given s = givenApi given s >>=
    loadWith (Switches.check (s.value? (Lookup.forSettings given) given)) s := by
  unfold load givenApi
  simp only [bind_assoc, pure_bind]
  rfl

theorem good_of_within {α : Type} {p : Place} {c : Checked α} {a : α}
    (h : c.within p = .good a) : c = .good a := by
  cases c with
  | good b => cases h; rfl
  | bad issues => cases h

/-- Settings that load are good in their own parts, and their connection in what is given for it. -/
theorem check_of_load (h : load given s = .ok x) : ∃ api, givenApi given s = .ok api ∧
    Switches.check (s.value? (Lookup.forSettings given) given) = .good x.toSwitches ∧
    Connection.checkFrom (membersOf api) s = .good x.api := by
  rw [load_eq] at h
  obtain ⟨api, hapi, h⟩ := ok_of_bind h
  refine ⟨api, hapi, ?_⟩
  cases api with
  | none =>
    obtain ⟨connection, hconnection, h⟩ := ok_of_bind h
    obtain ⟨f, a, hf, ha, rfl⟩ := Checked.good_of_seq (verdict_ok h)
    obtain ⟨switches, hswitches, rfl⟩ := Checked.good_of_map hf
    cases ha
    exact ⟨hswitches, verdict_ok hconnection⟩
  | some v =>
    obtain ⟨f, a, hf, ha, rfl⟩ := Checked.good_of_seq (verdict_ok h)
    obtain ⟨switches, hswitches, rfl⟩ := Checked.good_of_map hf
    cases v with
    | object members => exact ⟨hswitches, good_of_within ha⟩
    | _ => cases ha

/-! Changes that come after the sources of all parts. -/

section
variable {changed : String → Bool} {t : Sources} {api : Option Value}

theorem givenApi_agree (h : s.AgreeBut changed t)
    (hc : changed (lower ((Lookup.forSettings given).lead ++ "api")) = false) :
    givenApi given s = givenApi given t := by
  rw [givenApi, givenApi, h.named?_eq hc, h.filed?_eq hc]

theorem switches_agree (h : s.AgreeBut changed t) {l : Lookup}
    (ho : Sources.Outranked changed s t l given Switches.names) :
    Switches.check (s.value? l given) = Switches.check (t.value? l given) :=
  Switches.check_congr fun _ => h.value?_eq ho

theorem checkFrom_agree (h : s.AgreeBut changed t)
    (ho : Sources.Outranked changed s t (Lookup.forConnection given) given Connection.names) :
    Connection.checkFrom given s = Connection.checkFrom given t :=
  Connection.check_congr fun _ => h.value?_eq ho

theorem loadWith_agree (h : s.AgreeBut changed t) (switches : Checked Switches)
    (hapi : Sources.Outranked changed s t (Lookup.forConnection (membersOf api)) (membersOf api)
      Connection.names) : loadWith switches s api = loadWith switches t api := by
  have hconnection := checkFrom_agree h hapi
  cases api with
  | none =>
    rw [loadWith, loadWith, Connection.load, Connection.load]
    rw [show Connection.checkFrom [] s = Connection.checkFrom [] t from hconnection]
  | some v =>
    have hcheck : checkApi s v = checkApi t v := by
      cases v with
      | object members => exact congrArg (Checked.within (.key "api")) hconnection
      | _ => rfl
    rw [loadWith, loadWith, hcheck]

end

/-! Objects for the connection, of which each is filled in by the next. -/

/-- Nothing or an object. -/
def IsObject (o : Option Value) : Prop := ∀ v ∈ o, ∃ members, v = .object members

/-- Members each of which comes once, those for parts of a connection in their own case. -/
structure OwnNames (members : Pairs Value) : Prop where
  nodup : members.names.Nodup
  own : ∀ name ∈ members.names, partName name = name

theorem lower_of_mem_names : ∀ name ∈ Connection.names, lower name = name := by decide +kernel

theorem partName_of_mem_names : ∀ name ∈ Connection.names, partName name = name := by
  decide +kernel

theorem partName_of_lower {name : String} (h : lower name ∈ Connection.names) :
    partName name = lower name := by
  unfold partName
  cases hf : Connection.names.find? (lower name == ·) with
  | none => exact absurd (List.find?_eq_none.mp hf _ h) (by simp)
  | some other => exact (beq_iff_eq.mp (List.find?_some hf)).symm

theorem partName_partName (name : String) : partName (partName name) = partName name := by
  cases hf : Connection.names.find? (lower name == ·) with
  | none =>
    have hname : partName name = name := by rw [partName, hf]; rfl
    rw [hname, hname]
  | some other =>
    have hname : partName name = other := by rw [partName, hf]; rfl
    rw [hname]
    exact partName_of_mem_names other (List.mem_of_find?_eq_some hf)

/-- Among names in their own case, case does not matter. -/
theorem part?_eq_lookup (l : Lookup) {members : Pairs Value}
    (h : ∀ name ∈ members.names, partName name = name) {name : String}
    (hn : name ∈ Connection.names) : l.part? members name = members.lookup name := by
  have hfold (n : String) (hown : partName n = n) : (l.fold n == name) = (name == n) := by
    rw [Bool.eq_iff_iff, beq_iff_eq, beq_iff_eq, Lookup.fold]
    split
    · exact eq_comm
    · constructor
      · intro he
        rw [← he, ← partName_of_lower (he ▸ hn), hown]
      · rintro rfl
        exact lower_of_mem_names name hn
  rw [Lookup.part?]
  induction members with
  | nil => rfl
  | cons p members ih =>
    obtain ⟨hp, hmembers⟩ := List.forall_mem_cons.mp h
    rw [List.find?_cons, List.lookup_cons, hfold p.1 hp]
    cases name == p.1 with
    | true => rfl
    | false => exact ih hmembers

theorem ownNames_putAll {low high : Pairs Value} (hl : OwnNames low) (hh : OwnNames high) :
    OwnNames (Pairs.putAll low high) where
  nodup := Pairs.nodup_putAll hl.nodup
  own := Pairs.names_putAll hl.own hh.own

theorem ownNames_partNames {members own : Pairs Value}
    (h : partNames (.object members) = .object own) : OwnNames own := by
  cases h
  refine ⟨Pairs.nodup_putAll List.nodup_nil, Pairs.names_putAll nofun fun name hn => ?_⟩
  rw [Pairs.names, List.map_map] at hn
  obtain ⟨p, -, rfl⟩ := List.mem_map.mp hn
  exact partName_partName p.1

/-- Nothing, or an object with names in their own case. -/
def IsOwn (o : Option Value) : Prop := IsObject o ∧ OwnNames (membersOf o)

theorem ownNames_nil : OwnNames [] where
  nodup := List.nodup_nil
  own _ h := absurd h List.not_mem_nil

/-- A connection written as JSON has its names in their own case. -/
theorem isOwn_readApi {origin : Origin} {l : Lookup} {written : Option String} {o : Option Value}
    (h : readApi false origin (written.map l.valueOf) = .ok o) (ho : IsObject o) : IsOwn o := by
  refine ⟨ho, ?_⟩
  cases o with
  | none => exact ownNames_nil
  | some v =>
    obtain ⟨members, rfl⟩ := ho v rfl
    cases written with
    | none => cases h
    | some w =>
      rw [Option.map_some, Lookup.valueOf] at h
      split at h
      · cases h
      · rw [readApi] at h
        split at h
        · cases h
        · cases h
        · next v _ _ =>
          cases v <;> cases h
          exact ownNames_partNames rfl

theorem merge_none (o : Option Value) : merge o none = o := by
  unfold merge
  split <;> simp_all

/-- Of two objects the first goes before the second, part by part. -/
theorem merge_own {high low : Option Value} (hh : IsOwn high) (hl : IsOwn low) :
    IsOwn (merge high low) ∧ ∀ (l : Lookup), ∀ name ∈ Connection.names,
      l.part? (membersOf (merge high low)) name =
        (l.part? (membersOf high) name <|> l.part? (membersOf low) name) := by
  cases high with
  | none => exact ⟨hl, fun _ _ _ => rfl⟩
  | some high =>
    obtain ⟨members, rfl⟩ := hh.1 high rfl
    cases low with
    | none =>
      refine ⟨hh, fun l name _ => ?_⟩
      rw [merge_none]
      cases l.part? (membersOf (some (.object members))) name <;> rfl
    | some low =>
      obtain ⟨others, rfl⟩ := hl.1 low rfl
      have hown : OwnNames (Pairs.putAll others members) := ownNames_putAll hl.2 hh.2
      refine ⟨⟨fun v hv => ⟨_, (Option.some.inj hv).symm⟩, hown⟩, fun l name hn => ?_⟩
      have hhigh : l.part? members name = members.lookup name := part?_eq_lookup l hh.2.own hn
      have hlow : l.part? others name = others.lookup name := part?_eq_lookup l hl.2.own hn
      have hlookup : (Pairs.putAll others members).lookup name =
          (members.lookup name).or (others.lookup name) := Pairs.lookup_putAll hh.2.nodup
      rw [merge, membersOf, membersOf, membersOf, hhigh, hlow, part?_eq_lookup l hown.own hn,
        hlookup]
      cases members.lookup name <;> rfl

/-- Each part of the connection is that of the first object that has it: the one given, that of the
variable and that of the file. One that is given alone may have its names in any case. -/
theorem isFirst_of_merge {given named filed : Option Value}
    (hgiven : IsOwn given ∨ named = none ∧ filed = none) (hnamed : IsOwn named)
    (hfiled : IsOwn filed) (l : Lookup) {name : String} (hn : name ∈ Connection.names) :
    IsFirst [l.part? (membersOf given) name, l.part? (membersOf named) name,
      l.part? (membersOf filed) name]
      (l.part? (membersOf (merge (merge given named) filed)) name) := by
  rcases hgiven with hgiven | ⟨rfl, rfl⟩
  · obtain ⟨hown, hparts⟩ := merge_own hgiven hnamed
    rw [(merge_own hown hfiled).2 l name hn, hparts l name hn]
    cases l.part? (membersOf given) name with
    | some v => exact .here v _
    | none => exact .later (isFirst_orElse (isFirst_singleton _))
  · rw [merge_none, merge_none]
    cases l.part? (membersOf given) name with
    | some v => exact .here v _
    | none => exact .later (.later (.later .nowhere))

/-- What the sources have for the connection: what is given, the variable and the file. -/
structure GivesApi (given : Pairs Value) (s : Sources) (part named filed : Option Value) :
    Prop where
  part : (Lookup.forSettings given).part? given "api" = part
  named : readApi (Lookup.forSettings given).keepsCase .exported
    (s.named? (Lookup.forSettings given) "api") = .ok named
  filed : readApi (Lookup.forSettings given).keepsCase .file
    (s.filed? (Lookup.forSettings given) "api") = .ok filed

/-- The members of the object that is given for the connection, in whatever ways. -/
def givenMembers (given : Pairs Value) (s : Sources) : Pairs Value :=
  match givenApi given s with
  | .ok api => membersOf api
  | .error _ => []

theorem givenMembers_of_ok {api : Option Value} (h : givenApi given s = .ok api) :
    givenMembers given s = membersOf api := by
  rw [givenMembers, h]

theorem GivesApi.members {part named filed : Option Value} (h : GivesApi given s part named filed) :
    givenMembers given s = membersOf (merge (merge part named) filed) := by
  refine givenMembers_of_ok ?_
  rw [givenApi, h.named, h.filed, h.part]
  rfl

theorem isOwn_named {part named filed : Option Value} (h : GivesApi given s part named filed)
    (hk : (Lookup.forSettings given).keepsCase = false) (ho : IsObject named) : IsOwn named :=
  isOwn_readApi (hk ▸ h.named) ho

theorem isOwn_filed {part named filed : Option Value} (h : GivesApi given s part named filed)
    (hk : (Lookup.forSettings given).keepsCase = false) (ho : IsObject filed) : IsOwn filed := by
  have hfiled := h.filed
  rw [hk, Sources.filed?] at hfiled
  split at hfiled
  · exact isOwn_readApi hfiled ho
  · cases hfiled
    exact ⟨ho, ownNames_nil⟩

/-! Variables of a connection and of the settings around it. -/

theorem lower_lead : ∀ name ∈ Connection.names,
    lower (Connection.lead ++ name) = Connection.lead ++ name := by decide +kernel

section
variable {changed : String → Bool} {t : Sources}

theorem outranked_of_lead {l : Lookup} (hl : l.lead = "")
    (h : ∀ name, changed name = true → Connection.lead.toList <+: name.toList) :
    Sources.Outranked changed s t l given Switches.names := by
  have hlower : ∀ name ∈ Switches.names, lower ("" ++ name) = name ∧
      ¬ Connection.lead.toList <+: name.toList := by decide +kernel
  intro name hn hc
  rw [hl, (hlower name hn).1] at hc
  exact absurd (h name hc) (hlower name hn).2

theorem outranked_of_switches {l : Lookup} (hl : l.lead = Connection.lead)
    (h : ∀ name, changed name = true → name ∈ Switches.names) :
    Sources.Outranked changed s t l given Connection.names := by
  have hother : ∀ name ∈ Connection.names, Connection.lead ++ name ∉ Switches.names := by
    decide +kernel
  intro name hn hc
  rw [hl, lower_lead name hn] at hc
  exact absurd (h _ hc) (hother name hn)

end

/-- Every part is read from the first source that has it. -/
structure ByPriority (given : Pairs Value) (s : Sources) : Prop where
  switches : ∃ look, s.InOrder (Lookup.forSettings given) given look ∧
    Switches.load given s = verdict "BaseSettings" (Switches.check look)
  connection : ∃ look, s.InOrder (Lookup.forConnection given) given look ∧
    Connection.load given s = verdict "APISettings" (Connection.check look)
  /-- Parts of a connection come from the object that is given for it, then from its sources. -/
  settings : ∀ members, givenApi given s = .ok (some (.object members)) → ∃ look lookApi,
    s.InOrder (Lookup.forSettings given) given look ∧
    s.InOrder (Lookup.forConnection members) members lookApi ∧
    load given s = verdict "Settings"
      (mk <$> Switches.check look <*> (Connection.check lookApi).within (.key "api"))
  /-- Where nothing is given for it, the connection is read from its sources before the rest. -/
  unaided : givenApi given s = .ok none → ∃ look lookApi,
    s.InOrder (Lookup.forSettings given) given look ∧
    s.InOrder (Lookup.forConnection []) [] lookApi ∧
    load given s = do
      let api ← verdict "APISettings" (Connection.check lookApi)
      verdict "Settings" (mk <$> Switches.check look <*> pure api)
  loaded : ∀ x, load given s = .ok x → ∃ look lookApi,
    s.InOrder (Lookup.forSettings given) given look ∧
    s.InOrder (Lookup.forConnection (givenMembers given s)) (givenMembers given s) lookApi ∧
    Switches.check look = .good x.toSwitches ∧ Connection.check lookApi = .good x.api
  /-- Among objects for the connection the one given goes before those of variable and file. -/
  api : ∀ part named filed, GivesApi given s part named filed →
    (Lookup.forSettings given).keepsCase = false → IsObject named → IsObject filed →
    IsOwn part ∨ named = none ∧ filed = none →
    ∀ l : Lookup, ∀ name ∈ Connection.names,
      IsFirst [l.part? (membersOf part) name, l.part? (membersOf named) name,
        l.part? (membersOf filed) name] (l.part? (givenMembers given s) name)

/-- Changes come to nothing where what changes is outranked, or belongs to other settings. -/
structure Undisturbed (changed : String → Bool) (given : Pairs Value) (s t : Sources) : Prop where
  switches : Sources.Outranked changed s t (Lookup.forSettings given) given Switches.names →
    Switches.load given s = Switches.load given t
  connection : Sources.Outranked changed s t (Lookup.forConnection given) given Connection.names →
    Connection.load given s = Connection.load given t
  settings : changed (lower ((Lookup.forSettings given).lead ++ "api")) = false →
    Sources.Outranked changed s t (Lookup.forSettings given) given Switches.names →
    Sources.Outranked changed s t (Lookup.forConnection (givenMembers given s))
      (givenMembers given s) Connection.names → load given s = load given t
  /-- Variables of a connection are none of the settings around it. -/
  own : (Lookup.forSettings given).lead = "" →
    (∀ name, changed name = true → Connection.lead.toList <+: name.toList) →
    ∀ x y, load given s = .ok x → load given t = .ok y → x.toSwitches = y.toSwitches
  /-- Variables of settings are none of the connection in them. -/
  api : (Lookup.forSettings given).lead = "" →
    (Lookup.forConnection (givenMembers given s)).lead = Connection.lead →
    (∀ name, changed name = true → name ∈ Switches.names) →
    ∀ x y, load given s = .ok x → load given t = .ok y → x.api = y.api

theorem byPriority (given : Pairs Value) (s : Sources) : ByPriority given s where
  switches := ⟨_, s.inOrder_value? _ given, rfl⟩
  connection := ⟨_, s.inOrder_value? _ given, rfl⟩
  settings members h := by
    refine ⟨_, _, s.inOrder_value? _ given, s.inOrder_value? _ members, ?_⟩
    rw [load_eq, h]
    rfl
  unaided h := by
    refine ⟨_, _, s.inOrder_value? _ given, s.inOrder_value? _ [], ?_⟩
    rw [load_eq, h]
    rfl
  loaded x h := by
    obtain ⟨api, hapi, hswitches, hconnection⟩ := check_of_load h
    rw [← givenMembers_of_ok hapi] at hconnection
    exact ⟨_, _, s.inOrder_value? _ given, s.inOrder_value? _ _, hswitches, hconnection⟩
  api part named filed h hk hnamed hfiled hpart l name hn := by
    rw [h.members]
    exact isFirst_of_merge hpart (isOwn_named h hk hnamed) (isOwn_filed h hk hfiled) l hn

theorem undisturbed {changed : String → Bool} {t : Sources} (h : s.AgreeBut changed t)
    (given : Pairs Value) : Undisturbed changed given s t where
  switches ho := congrArg (verdict "BaseSettings") (switches_agree h ho)
  connection ho := congrArg (verdict "APISettings") (checkFrom_agree h ho)
  settings hc ho hapi := by
    rw [load_eq, load_eq, ← givenApi_agree h hc, switches_agree h ho]
    cases hgiven : givenApi given s with
    | error f => rfl
    | ok api => exact loadWith_agree h _ (givenMembers_of_ok hgiven ▸ hapi)
  own hlead hchanged x y hx hy := by
    obtain ⟨-, -, hswitches, -⟩ := check_of_load hx
    obtain ⟨-, -, hswitches', -⟩ := check_of_load hy
    rw [switches_agree h (outranked_of_lead hlead hchanged), hswitches'] at hswitches
    exact (Checked.good.inj hswitches).symm
  api hlead hlead' hchanged x y hx hy := by
    have hc : changed (lower ((Lookup.forSettings given).lead ++ "api")) = false := by
      have hlower : lower ("" ++ "api") ∉ Switches.names := by decide +kernel
      rw [hlead]
      exact Bool.eq_false_iff.mpr fun hc => hlower (hchanged _ hc)
    obtain ⟨api, hapi, -, hconnection⟩ := check_of_load hx
    obtain ⟨api', hapi', -, hconnection'⟩ := check_of_load hy
    rw [givenMembers_of_ok hapi] at hlead'
    obtain rfl := Except.ok.inj (hapi.symm.trans ((givenApi_agree h hc).trans hapi'))
    rw [checkFrom_agree h (outranked_of_switches hlead' hchanged), hconnection'] at hconnection
    exact (Checked.good.inj hconnection).symm

/-- Settings of every kind are resolved part by part, each from the first source that has it, and
nothing that changes after it matters, as long as the settings file does not refer to it. -/
theorem resolved_by_priority (given : Pairs Value) (e : Environment) :
    ByPriority given e.sources ∧ ∀ f changed, e.AgreeBut changed f →
      Undisturbed changed given e.sources f.sources :=
  ⟨byPriority given e.sources, fun _ _ h => undisturbed h.sources given⟩

/-- A variable that no longer counts once a value is given, and one of the connection. -/
theorem resolved_by_priority_debug :
    let given : Pairs Value := [("debug", .bool true)]
    let file := some "CIRCONUS_API_URL=https://$\x7bHOST\x7d/"
    let e : Environment := ⟨[("HOST", "h"), ("LOG_LEVEL", "error"), ("Debug", "no")], file⟩
    let f : Environment := ⟨[("HOST", "h"), ("LOG_LEVEL", "error"), ("DEBUG", "bogus")], file⟩
    let g : Environment := ⟨("circonus_api_log_level", "debug") :: e.exported, file⟩
    load given e.sources = load given f.sources ∧
    ∃ x y, load given e.sources = .ok x ∧ load given g.sources = .ok y ∧ x.api.url = "https://h" ∧
      x.toSwitches = y.toSwitches := by
  intro given file e f g
  obtain ⟨-, hundisturbed⟩ := resolved_by_priority given e
  constructor
  · have hf : e.AgreeBut (· == "debug") f := ⟨by decide +kernel, rfl, by decide +kernel⟩
    have hchanged : ∀ name, (name == "debug") = true → name ∈ Switches.names := fun name h =>
      List.mem_cons.mpr (.inl (beq_iff_eq.mp h))
    refine (hundisturbed f _ hf).settings (by decide +kernel) (List.forall_mem_cons.mpr ?_)
      (outranked_of_switches (by decide +kernel) hchanged)
    exact ⟨fun _ => .inl rfl, List.forall_mem_singleton.mpr fun hc => absurd hc (by decide +kernel)⟩
  · have hg : e.AgreeBut (Connection.lead.toList.isPrefixOf ·.toList) g :=
      ⟨by decide +kernel, rfl, by decide +kernel⟩
    have hx : (load given e.sources).toOption.map (·.api.url) = some "https://h" := by
      decide +kernel
    have hy : (load given g.sources).toOption.map (·.debug) = some true := by decide +kernel
    obtain ⟨x, hx, hurl⟩ := Option.map_eq_some_iff.mp hx
    obtain ⟨y, hy, -⟩ := Option.map_eq_some_iff.mp hy
    refine ⟨x, y, ok_of_toOption hx, ok_of_toOption hy, hurl, ?_⟩
    exact (hundisturbed g _ hg).own rfl (fun _ => List.isPrefixOf_iff_prefix.mp) x y
      (ok_of_toOption hx) (ok_of_toOption hy)

/-- Settings files may refer to variables of the connection, options may change the lead of its
variables, and a given object may have its names in another case than the variable. -/
theorem priority_overridden :
    (let e (level : String) : Environment :=
      ⟨[("CIRCONUS_API_LOG_LEVEL", level)], some "LOG_LEVEL=$\x7bCIRCONUS_API_LOG_LEVEL\x7d"⟩
    (load [] (e "INFO").sources).toOption.map (·.logLevel) = some "INFO" ∧
    (load [] (e "ERROR").sources).toOption.map (·.logLevel) = some "ERROR") ∧
    (let given : Pairs Value := [("api", .object [("_env_prefix", .text "")])]
    let e (debug : String) : Environment := ⟨[("DEBUG", debug)], none⟩
    (load given (e "0").sources).toOption.map (·.api.debug) = some false ∧
    (load given (e "1").sources).toOption.map (·.api.debug) = some true) ∧
    let given : Pairs Value := [("api", .object [("TOKEN", .text "init")])]
    let e : Environment := ⟨[("API", "\x7b\"token\":\"env\"\x7d")], none⟩
    (load given e.sources).toOption.map (·.api.token) = some "env" := by
  decide +kernel

end Settings
end Outlier

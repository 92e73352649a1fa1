import Outlier.Proofs.Lifecycle.Catalogue

/-! What the server keeps of the records of a catalogue, and how it stays the same. -/
namespace Outlier

namespace Pairs
variable {α β : Type} {R : α → β → Prop} {name : String} {a : α} {b : β} {ps : Pairs α}
  {qs : Pairs β}

/-- The same names in the same order, with values that are related. -/
def Related (R : α → β → Prop) : Pairs α → Pairs β → Prop :=
  List.Forall₂ fun p q => p.1 = q.1 ∧ R p.2 q.2

theorem Related.lookup (h : Related R ps qs) (name : String) :
    (ps.lookup name = none ∧ qs.lookup name = none) ∨
      ∃ a b, ps.lookup name = some a ∧ qs.lookup name = some b ∧ R a b := by
  induction h with
  | nil => exact .inl ⟨rfl, rfl⟩
  | @cons p q ps qs hpq _ ih =>
    obtain ⟨n, a⟩ := p
    obtain ⟨m, b⟩ := q
    obtain ⟨rfl, hab⟩ : n = m ∧ R a b := hpq
    rw [List.lookup_cons, List.lookup_cons]
    cases name == n with
    | true => exact .inr ⟨a, b, rfl, rfl, hab⟩
    | false => exact ih

theorem Related.exists_of_mem {q : String × β} (h : Related R ps qs) (hq : q ∈ qs) :
    ∃ p ∈ ps, p.1 = q.1 ∧ R p.2 q.2 := by
  induction h with
  | nil => cases hq
  | cons hpq _ ih =>
    rcases List.mem_cons.mp hq with rfl | hq
    · exact ⟨_, List.mem_cons_self, hpq⟩
    · obtain ⟨p, hp, hr⟩ := ih hq
      exact ⟨p, List.mem_cons_of_mem _ hp, hr⟩

theorem Related.put (h : Related R ps qs) (hab : R a b) (name : String) :
    Related R (put name a ps) (put name b qs) := by
  induction h with
  | nil => exact .cons ⟨rfl, hab⟩ .nil
  | @cons p q ps qs hpq ht ih =>
    unfold Pairs.put
    rw [← hpq.1]
    by_cases hn : p.1 = name
    · rw [if_pos hn, if_pos hn]
      exact .cons ⟨rfl, hab⟩ ht
    · rw [if_neg hn, if_neg hn]
      exact .cons hpq ih

theorem Related.without (h : Related R ps qs) (name : String) :
    Related R (ps.filter (·.1 ≠ name)) (qs.filter (·.1 ≠ name)) :=
  List.rel_filter (fun p q hpq => by simp [hpq.1]) h

end Pairs

/-! Records as they are kept. -/
namespace Record
variable {r old new : Record} {members overlaid : Pairs Value} {f : Field} {v : Value}

/-- An outlier report that holds nothing empty, and whose integers JSON has room for. -/
structure IsKept (r : Record) : Prop where
  model : r.model = .outlierReport
  valid : r.IsValid
  normal : r.normal = r
  fits : r.Fits Json.strict

theorem isValid_of_holds (hm : r.model = .outlierReport)
    (h : ∀ f : Field, f.shape.Holds (r.get f)) : r.IsValid := by
  refine ⟨h, fun f hf => absurd ?_ hf⟩
  rw [hm]
  cases f <;> decide

theorem normal_eq_self (h : ∀ f, cleared (r.get f) = r.get f) : r.normal = r := by
  cases r
  rw [normal]
  congr 1
  exact funext h

theorem cleared_cleared (v : Value) : cleared (cleared v) = cleared v := by
  cases v with
  | text t =>
    unfold cleared
    by_cases h : t.isEmpty = true <;> simp [h]
  | int n =>
    unfold cleared
    by_cases h : n = 0 <;> simp [h]
  | _ => rfl

theorem fits_normal {d : Json.Dialect} (h : r.Fits d) : r.normal.Fits d := by
  intro f n hn
  refine h f n ?_
  cases he : isEmpty (r.get f) with
  | false => rwa [← cleared_of_not_isEmpty he]
  | true =>
    have hc : cleared (r.get f) = .int n := hn
    cases hv : r.get f <;> rw [hv] at hc he <;> simp_all [cleared, isEmpty]

theorem isKept_normal (hm : r.model = .outlierReport) (h : r.IsValid) (hf : r.Fits Json.strict) :
    r.normal.IsKept where
  model := hm
  valid := isValid_normal h
  normal := normal_eq_self fun f => cleared_cleared (r.get f)
  fits := fits_normal hf

theorem IsKept.set (h : r.IsKept) (hv : f.shape.Holds v) (he : isEmpty v = false)
    (hn : IntegerFits Json.strict v) : (r.set f v).IsKept := by
  -- a field is the one that is set, or holds what it held before
  have hcase (P : Field → Value → Prop) (hset : P f v) (hkept : ∀ g, P g (r.get g)) (g : Field) :
      P g ((r.set f v).get g) := by
    by_cases hg : g = f
    · subst hg
      rw [get_set_self]
      exact hset
    · rw [get_set_of_ne r hg]
      exact hkept g
  refine ⟨h.model, isValid_of_holds h.model ?_, normal_eq_self ?_, ?_⟩
  · exact hcase (fun g x => g.shape.Holds x) hv h.valid.holds
  · exact hcase (fun _ x => cleared x = x) (cleared_of_not_isEmpty he) fun g =>
      congrFun (congrArg Record.get h.normal) g
  · exact hcase (fun _ x => IntegerFits Json.strict x) hn h.fits

theorem IsKept.overlay (h : old.IsKept) (hv : new.IsValid) (hn : new.Fits Json.strict) :
    (old.overlay new).IsKept := by
  -- a field holds what the old record holds, or what the new one does and is not empty
  have hcase (P : Field → Value → Prop) (hold : ∀ f, P f (old.get f))
      (hnew : ∀ f, isEmpty (new.get f) = false → P f (new.get f)) (f : Field) :
      P f ((old.overlay new).get f) := by
    rw [Record.overlay]
    dsimp only
    cases he : isEmpty (new.get f) with
    | true => exact hold f
    | false => exact hnew f he
  refine ⟨h.model, isValid_of_holds h.model ?_, normal_eq_self ?_, ?_⟩
  · exact hcase (fun f x => f.shape.Holds x) h.valid.holds fun f _ => hv.holds f
  · exact hcase (fun _ x => cleared x = x) (fun f => congrFun (congrArg Record.get h.normal) f)
      fun f he => cleared_of_not_isEmpty he
  · exact hcase (fun _ x => IntegerFits Json.strict x) h.fits fun f _ => hn f

theorem Carries.put (h : Carries members r) (he : isEmpty v = false) :
    Carries (Pairs.put f.key v members) (r.set f v) := by
  constructor
  · intro g
    by_cases hg : g = f
    · subst hg
      rw [Pairs.lookup_put_self, get_set_self, he]
      rfl
    · rw [Pairs.lookup_put_of_ne fun hk => hg (key_injective hk), get_set_of_ne r hg]
      exact h.key g
  · intro name hn
    rw [Pairs.lookup_put_of_ne (hn f).symm]
    exact h.other name hn

theorem Carries.putAll (h : Carries members old) (ho : Carries overlaid new)
    (hk : overlaid.names.Nodup) : Carries (Pairs.putAll members overlaid) (old.overlay new) := by
  constructor
  · intro f
    rw [Pairs.lookup_putAll hk, ho.key, h.key, Record.overlay]
    cases he : isEmpty (new.get f) <;> simp [he]
  · intro name hn
    rw [Pairs.lookup_putAll hk, ho.other name hn, h.other name hn]
    rfl

theorem carries_normal (h : r.IsValid) (hc : Carries members r) : Carries members r.normal := by
  refine ⟨fun f => ?_, hc.other⟩
  have hempty : isEmpty (r.normal.get f) = isEmpty (r.get f) := isEmpty_cleared (h.holds f)
  rw [hc.key, hempty]
  cases he : isEmpty (r.get f) with
  | true => rfl
  | false => exact congrArg some (cleared_of_not_isEmpty he).symm

/-- An object that keeps a record. -/
structure Keeps (members : Pairs Value) (r : Record) : Prop where
  kept : r.IsKept
  carries : Carries members r
  nodup : members.names.Nodup

/-- What is created keeps the record under its identifier. -/
theorem keeps_created (hm : r.model = .outlierReport) (h : r.IsValid) (hf : r.Fits Json.strict)
    (n : Nat) :
    Keeps (Pairs.put "_created" (.int Server.clock)
      (Pairs.put "_cid" (.text (Server.identifier n)) r.given)) (r.created n) := by
  have hid : isEmpty (.text (Server.identifier n)) = false :=
    Bool.eq_false_iff.mpr fun he => Server.identifier_ne_empty n (String.isEmpty_iff.mp he)
  have hclock : isEmpty (.int Server.clock) = false := rfl
  have hcid : (r.normal.set .cid (.text (Server.identifier n))).IsKept :=
    (isKept_normal hm h hf).set (.text _) hid nofun
  have hfits : IntegerFits Json.strict (.int Server.clock) := by
    intro m hm
    cases hm
    decide
  refine ⟨hcid.set (.integer _) hclock hfits, ?_, ?_⟩
  · exact ((carries_normal h (carries_given h)).put (f := .cid) hid).put (f := .created) hclock
  · exact Pairs.nodup_put (Pairs.nodup_put (nodup_names_given (nodup_fields r.model)))

theorem Keeps.overlay (hk : Keeps members old) (h : new.IsValid) (hf : new.Fits Json.strict) :
    Keeps (Pairs.putAll members new.given) (old.overlay new) where
  kept := hk.kept.overlay h hf
  carries := hk.carries.putAll (carries_given h) (nodup_names_given (nodup_fields new.model))
  nodup := Pairs.nodup_putAll hk.nodup

theorem Keeps.readable (hk : Keeps members r) {depth : Nat}
    (hd : ∀ n ≤ depth + 2, Json.Within Json.strict n) :
    Json.Readable Json.strict depth (.object members) :=
  readable_of_carries hk.kept.valid hk.kept.fits hk.carries hk.nodup hd

theorem Keeps.validate (hk : Keeps members r) {read : Pairs Value}
    (hs : Server.SameMembers members read) : validate .outlierReport (.object read) = .ok r := by
  have hc : Carries read r :=
    ⟨fun f => (hs _).trans (hk.carries.key f), fun n hn => (hs n).trans (hk.carries.other n hn)⟩
  have hv := validate_of_carries hk.kept.valid hc
  rwa [hk.kept.model, hk.kept.normal] at hv

theorem fits_of_digits (h : ∀ f n, r.get f = .int n → Decimal.digitCount n.natAbs ≤ 4300) :
    r.Fits Json.strict ∧ r.Fits Json.lenient := by
  have hs : r.Fits Json.strict := fits_strict h
  refine ⟨hs, fun f n hn => ?_⟩
  have hfit := hs f n hn
  simp_all [Json.strict, Json.lenient]

end Record

/-! Servers. -/
namespace Server
variable {s : Server} {k : Catalogue} {r : Record} {path : String} {members : Pairs Value}

/-- A server represents a catalogue if it keeps the same records in the same order, all of them
under identifiers of numbers before the next one. -/
structure Represents (s : Server) (k : Catalogue) : Prop where
  next : s.next = k.next
  reports : Pairs.Related (fun r members => Record.Keeps members r) k.records s.reports
  known : ∀ name ∈ k.records.names, ∃ n < k.next, name = identifier n

theorem represents_start : Represents start Catalogue.start := ⟨rfl, .nil, nofun⟩

theorem Represents.not_mem (h : s.Represents k) : identifier k.next ∉ k.records.names := by
  intro hm
  obtain ⟨n, hn, he⟩ := h.known _ hm
  exact absurd (identifier_injective he) (by omega)

theorem Represents.added (h : s.Represents k) (hk : Record.Keeps members r) (written : Nat) :
    Represents ⟨s.next + 1, Pairs.put (identifier s.next) members s.reports, written⟩
      ⟨k.next + 1, k.records ++ [(identifier k.next, r)]⟩ := by
  have hput := h.reports.put hk (identifier k.next)
  rw [Pairs.put_of_not_mem h.not_mem] at hput
  refine ⟨congrArg (· + 1) h.next, by rw [h.next]; exact hput, fun name hn => ?_⟩
  rw [Pairs.names, List.map_append, List.mem_append] at hn
  rcases hn with hn | hn
  · obtain ⟨n, hlt, he⟩ := h.known name hn
    exact ⟨n, Nat.lt_succ_of_lt hlt, he⟩
  · exact ⟨k.next, Nat.lt_succ_self _, List.mem_singleton.mp hn⟩

theorem Represents.overlaid (h : s.Represents k) (hk : Record.Keeps members r)
    (hm : path ∈ k.records.names) (written : Nat) :
    Represents { s with reports := Pairs.put path members s.reports, written := written }
      { k with records := Pairs.put path r k.records } where
  next := h.next
  reports := h.reports.put hk path
  known name hn := h.known name (Pairs.names_put_of_mem hm ▸ hn)

theorem Represents.removed (h : s.Represents k) (path : String) :
    Represents { s with reports := s.reports.filter (·.1 ≠ path) }
      { k with records := k.records.filter (·.1 ≠ path) } where
  next := h.next
  reports := h.reports.without path
  known name hn := by
    obtain ⟨p, hp, rfl⟩ := List.mem_map.mp hn
    exact h.known _ (List.mem_map_of_mem (List.mem_of_mem_filter hp))

theorem Represents.written (h : s.Represents k) (written : Nat) :
    Represents { s with written := written } k := ⟨h.next, h.reports, h.known⟩

/-! What is written of reports is read back as their records. -/

variable {write : Nat → Value → List UInt8}

theorem ofBody_write (hw : Writes write) (hk : Record.Keeps members r) (n : Nat) :
    Record.ofBody .outlierReport (write n (.object members)) = .ok r := by
  obtain ⟨read, hread, hsame⟩ := hw.object n members (hk.readable fun n hn =>
    Json.within_strict (by omega))
  rw [Record.ofBody, Record.readWith, hread]
  exact congrArg (Record.reject _) (hk.validate hsame)

theorem validateItems_ok {rs : List Record} {reports read : List (Pairs Value)}
    (hk : List.Forall₂ (fun r members => Record.Keeps members r) rs reports)
    (hs : List.Forall₂ SameMembers reports read) (n : Nat) :
    Record.validateItems .outlierReport n (read.map .object) = .ok rs := by
  induction hk generalizing read n with
  | nil =>
    cases hs
    rfl
  | cons hk _ ih =>
    cases hs with
    | cons hs ht =>
      rw [List.map_cons, Record.validateItems, hk.validate hs, ih ht]

theorem allOfBody_write (hw : Writes write) (h : s.Represents k) (n : Nat) :
    Record.allOfBody .outlierReport (write n (.list (s.reports.map fun p => .object p.2))) =
      .ok (k.records.map (·.2)) := by
  have hobjects : s.reports.map (fun p => Value.object p.2) =
      (s.reports.map (·.2)).map .object := by
    rw [List.map_map]
    rfl
  have hk : List.Forall₂ (fun r members => Record.Keeps members r) (k.records.map (·.2))
      (s.reports.map (·.2)) := by
    rw [List.forall₂_map_left_iff, List.forall₂_map_right_iff]
    exact h.reports.imp fun _ _ hpq => hpq.2
  have hreadable : Json.Readable Json.strict 0 (.list ((s.reports.map (·.2)).map .object)) := by
    refine .list rfl fun v hv => ?_
    rw [← hobjects] at hv
    obtain ⟨q, hq, rfl⟩ := List.mem_map.mp hv
    obtain ⟨p, -, -, hp⟩ := h.reports.exists_of_mem hq
    exact hp.readable fun n hn => Json.within_strict (by omega)
  obtain ⟨read, hread, hsame⟩ := hw.list n (s.reports.map (·.2)) hreadable
  rw [hobjects, Record.allOfBody, Record.readWith, hread]
  exact congrArg (Record.reject _) (validateItems_ok hk hsame 0)

end Server
end Outlier

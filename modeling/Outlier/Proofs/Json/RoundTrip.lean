import Outlier.Proofs.Json.Scanning

/-! What is printed is read back: containers, and values as a whole. -/
namespace Outlier.Json

variable {d : Dialect} {n : Nat} {v : Value} {stack : List Frame} {rest s : List Char}

/-- A token may stand inside as many containers. -/
def Within (d : Dialect) (n : Nat) : Prop := (d.depth.any fun most => most < n) = false

theorem within_strict (h : n ≤ 200) : Within strict n :=
  decide_eq_false (Nat.not_lt.mpr h)

/-- A value inside a number of containers that has a printed form of its own. -/
inductive Readable (d : Dialect) : Nat → Value → Prop
  | null {n : Nat} (h : Within d n) : Readable d n .null
  | bool {n : Nat} {b : Bool} (h : Within d n) : Readable d n (.bool b)
  | int {n : Nat} {i : Int} (h : Within d n)
    (hf : d.fits ⟨Nat.toDigits 10 i.natAbs, none, none⟩ = true) : Readable d n (.int i)
  | text {n : Nat} {t : String} (h : Within d n) : Readable d n (.text t)
  | list {n : Nat} {items : List Value} (h : Within d n)
    (hi : ∀ v ∈ items, Readable d (n + 1) v) : Readable d n (.list items)
  | object {n : Nat} {members : Pairs Value} (h : Within d n) (hk : members.names.Nodup)
    (hv : ∀ p ∈ members, Readable d (n + 1) p.2) : Readable d n (.object members)

theorem Readable.within (h : Readable d n v) : Within d n := by
  cases h <;> assumption

/-- What is made of the characters that are left once a value is put where it belongs. -/
def placed (d : Dialect) (v : Value) (stack : List Frame) (rest : List Char) : Option Value :=
  (place v stack).bind fun b => complete d ⟨.between, b⟩ rest

/-- A value is read back wherever one is due. -/
def Returns (d : Dialect) (n : Nat) (v : Value) : Prop :=
  ∀ stack mayClose rest, stack.length = n → Follows rest →
    complete d ⟨.between, ⟨stack, .value mayClose⟩⟩ (print v ++ rest) = placed d v stack rest

/-! Steps by token. -/

theorem tooDeep_of_within (h : Within d stack.length) (t : Token) : tooDeep d stack t = false := by
  rw [tooDeep, show d.depth.any _ = false from h, Bool.and_false]

/-- A token that the build takes, behind one character. -/
theorem complete_of_step {b next : Build} {c : Char} {t : Token}
    (hc : scanStep d .between c = some ([t], .between)) (hb : buildStep d b t = some next) :
    complete d ⟨.between, b⟩ (c :: s) = complete d ⟨.between, next⟩ s := by
  rw [complete_of_token hc, completeAfter, hb]
  rfl

theorem complete_gap (b : Build) :
    complete d ⟨.between, b⟩ (' ' :: s) = complete d ⟨.between, b⟩ s := by
  have hgap : scanStep d .between ' ' = some ([], .between) := rfl
  exact complete_of_scan hgap

theorem completeAfter_scalar (h : Within d stack.length) (mayClose : Bool) :
    completeAfter d ⟨stack, .value mayClose⟩ (.scalar v) s = placed d v stack s := by
  simp [completeAfter, buildStep, tooDeep_of_within h, placed]

theorem complete_comma_list {items : List Value} (h : Within d (stack.length + 1)) :
    complete d ⟨.between, ⟨.list items :: stack, .next⟩⟩ (',' :: ' ' :: s) =
      complete d ⟨.between, ⟨.list items :: stack, .value false⟩⟩ s := by
  have hd : tooDeep d (.list items :: stack) .comma = false := tooDeep_of_within h _
  have hb : buildStep d ⟨.list items :: stack, .next⟩ .comma =
      some ⟨.list items :: stack, .value false⟩ := by simp [buildStep, hd]
  rw [complete_of_step rfl hb, complete_gap]

theorem complete_comma_object {members : Pairs Value} (h : Within d (stack.length + 1)) :
    complete d ⟨.between, ⟨.object members :: stack, .next⟩⟩ (',' :: ' ' :: s) =
      complete d ⟨.between, ⟨.object members :: stack, .key false⟩⟩ s := by
  have hd : tooDeep d (.object members :: stack) .comma = false := tooDeep_of_within h _
  have hb : buildStep d ⟨.object members :: stack, .next⟩ .comma =
      some ⟨.object members :: stack, .key false⟩ := by simp [buildStep, hd]
  rw [complete_of_step rfl hb, complete_gap]

theorem complete_close_list {items : List Value} {due : Due} (h : due = .next ∨ due = .value true) :
    complete d ⟨.between, ⟨.list items :: stack, due⟩⟩ (']' :: s) =
      placed d (.list items.reverse) stack s := by
  have hclose : scanStep d .between ']' = some ([.listClose], .between) := rfl
  rw [complete_of_token hclose]
  rcases h with rfl | rfl <;> rfl

theorem complete_close_object {members : Pairs Value} {due : Due}
    (h : due = .next ∨ due = .key true) :
    complete d ⟨.between, ⟨.object members :: stack, due⟩⟩ ('\x7d' :: s) =
      placed d (.object members) stack s := by
  have hclose : scanStep d .between '\x7d' = some ([.objectClose], .between) := rfl
  rw [complete_of_token hclose]
  rcases h with rfl | rfl <;> rfl

theorem complete_open_list (h : Within d stack.length) (mayClose : Bool) :
    complete d ⟨.between, ⟨stack, .value mayClose⟩⟩ ('[' :: s) =
      complete d ⟨.between, ⟨.list [] :: stack, .value true⟩⟩ s := by
  have hb : buildStep d ⟨stack, .value mayClose⟩ .listOpen =
      some ⟨.list [] :: stack, .value true⟩ := by simp [buildStep, tooDeep_of_within h]
  exact complete_of_step rfl hb

theorem complete_open_object (h : Within d stack.length) (mayClose : Bool) :
    complete d ⟨.between, ⟨stack, .value mayClose⟩⟩ ('\x7b' :: s) =
      complete d ⟨.between, ⟨.object [] :: stack, .key true⟩⟩ s := by
  have hb : buildStep d ⟨stack, .value mayClose⟩ .objectOpen =
      some ⟨.object [] :: stack, .key true⟩ := by simp [buildStep, tooDeep_of_within h]
  exact complete_of_step rfl hb

theorem complete_key {members : Pairs Value} {k : String} (h : Within d (stack.length + 1))
    (mayClose : Bool) :
    complete d ⟨.between, ⟨.object members :: stack, .key mayClose⟩⟩
        (printText k ++ ':' :: ' ' :: s) =
      complete d ⟨.between, ⟨.member members k :: stack, .value false⟩⟩ s := by
  have hd (f : Frame) (t : Token) : tooDeep d (f :: stack) t = false := tooDeep_of_within h t
  have hkey : buildStep d ⟨.object members :: stack, .key mayClose⟩ (.scalar (.text k)) =
      some ⟨.member members k :: stack, .colon⟩ := by simp [buildStep, hd, key?]
  have hcolon : buildStep d ⟨.member members k :: stack, .colon⟩ .colon =
      some ⟨.member members k :: stack, .value false⟩ := by simp [buildStep, hd]
  rw [complete_printText, completeAfter, hkey]
  exact (complete_of_step rfl hcolon).trans (complete_gap _)

/-! Containers. -/

theorem placed_list {items : List Value} :
    placed d v (.list items :: stack) s =
      complete d ⟨.between, ⟨.list (v :: items) :: stack, .next⟩⟩ s := rfl

theorem placed_member {members : Pairs Value} {k : String} :
    placed d v (.member members k :: stack) s =
      complete d ⟨.between, ⟨.object (Pairs.put k v members) :: stack, .next⟩⟩ s := rfl

theorem follows_cons {c : Char} {t : List Char} (h : endsWord c = true) : Follows (c :: t) := by
  rintro e u he
  cases he
  exact h

/-- The items of a list, in a list that holds some already. -/
theorem complete_printItems {items : List Value} (hne : items ≠ [])
    (h : Within d (stack.length + 1)) (hi : ∀ v ∈ items, Returns d (stack.length + 1) v)
    (held : List Value) (mayClose : Bool) :
    complete d ⟨.between, ⟨.list held :: stack, .value mayClose⟩⟩
        (printItems items ++ ']' :: rest) =
      placed d (.list (held.reverse ++ items)) stack rest := by
  induction items generalizing held mayClose with
  | nil => exact absurd rfl hne
  | cons v items ih =>
    have hv := hi v List.mem_cons_self (.list held :: stack) mayClose
    cases items with
    | nil =>
      rw [printItems, hv _ rfl (follows_cons rfl), placed_list, complete_close_list (.inl rfl),
        List.reverse_cons]
    | cons w items =>
      rw [printItems, List.append_assoc, List.cons_append, List.cons_append,
        hv _ rfl (follows_cons rfl), placed_list, complete_comma_list h,
        ih (List.cons_ne_nil w items) (fun u hu => hi u (List.mem_cons_of_mem v hu)),
        List.reverse_cons, List.append_assoc, List.singleton_append]
      exact List.cons_ne_nil w items

/-- The members of an object, in an object that holds others already. -/
theorem complete_printMembers {members : Pairs Value} (hne : members ≠ [])
    (h : Within d (stack.length + 1)) (hv : ∀ p ∈ members, Returns d (stack.length + 1) p.2)
    (held : Pairs Value) (hk : (Pairs.names (held ++ members)).Nodup) (mayClose : Bool) :
    complete d ⟨.between, ⟨.object held :: stack, .key mayClose⟩⟩
        (printMembers members ++ '\x7d' :: rest) =
      placed d (.object (held ++ members)) stack rest := by
  induction members generalizing held mayClose with
  | nil => exact absurd rfl hne
  | cons p members ih =>
    obtain ⟨k, v⟩ := p
    have hreturn := hv (k, v) List.mem_cons_self (.member held k :: stack) false
    have hput : Pairs.put k v held = held ++ [(k, v)] := by
      refine Pairs.put_of_not_mem fun hm => ?_
      simp only [Pairs.names, List.map_append, List.map_cons] at hk hm
      exact (List.nodup_append.mp hk).2.2 k hm k List.mem_cons_self rfl
    cases members with
    | nil =>
      rw [printMembers, List.append_assoc, List.cons_append, List.cons_append, complete_key h,
        hreturn _ rfl (follows_cons rfl), placed_member, complete_close_object (.inl rfl), hput]
    | cons p members =>
      have hk' : (Pairs.names ((held ++ [(k, v)]) ++ p :: members)).Nodup := by simpa using hk
      have hprint : printMembers ((k, v) :: p :: members) =
          printText k ++ ':' :: ' ' :: (print v ++ ',' :: ' ' :: printMembers (p :: members)) := by
        simp [printMembers]
      rw [hprint]
      simp only [List.append_assoc, List.cons_append]
      rw [complete_key h, hreturn _ rfl (follows_cons rfl), placed_member, hput,
        complete_comma_object h,
        ih (List.cons_ne_nil p members) (fun u hu => hv u (List.mem_cons_of_mem _ hu)) _ hk']
      simp

/-! Values. -/

theorem returns_of_word (h : Within d n) (hw : word? d (print v) = some v) (hne : print v ≠ [])
    (he : (print v).any endsWord = false) : Returns d n v := by
  intro stack mayClose rest hs hr
  have hall : ∀ c ∈ print v, endsWord c = false := fun c hc =>
    Bool.eq_false_iff.mpr (List.any_eq_false.mp he c hc)
  rw [complete_between_word hne hall hr, hw, Option.bind_some, completeAfter_scalar (hs ▸ h)]

/-- What is printed of a value is read back as the value. -/
theorem returns_of_readable (h : Readable d n v) : Returns d n v := by
  induction h with
  | null h => exact returns_of_word h rfl (List.cons_ne_nil _ _) rfl
  | @bool n b h =>
    cases b
    · exact returns_of_word h rfl (List.cons_ne_nil _ _) rfl
    · exact returns_of_word h rfl (List.cons_ne_nil _ _) rfl
  | @int n i h hf =>
    have hw : word? d (Numeral.ofInt i) = some (.int i) := (word?_ofInt i).trans (if_pos hf)
    exact returns_of_word h hw (ofInt_ne_nil i) (any_endsWord_ofInt i)
  | text h =>
    intro stack mayClose rest hs hr
    rw [print, complete_printText, completeAfter_scalar (hs ▸ h)]
  | @list n items h hi ih =>
    intro stack mayClose rest hs hr
    subst hs
    rw [print, List.append_assoc, List.cons_append, complete_open_list h, List.singleton_append]
    cases items with
    | nil => exact complete_close_list (.inr rfl)
    | cons v items =>
      have hin := (hi v List.mem_cons_self).within
      exact complete_printItems (List.cons_ne_nil v items) hin ih [] true
  | @object n members h hk hv ih =>
    intro stack mayClose rest hs hr
    subst hs
    rw [print, List.append_assoc, List.cons_append, complete_open_object h, List.singleton_append]
    cases members with
    | nil => exact complete_close_object (.inr rfl)
    | cons p members =>
      have hin := (hv p List.mem_cons_self).within
      exact complete_printMembers (List.cons_ne_nil p members) hin ih [] hk true

theorem readChars?_print (h : Readable d 0 v) : readChars? d (print v) = some v := by
  have hc := returns_of_readable h [] false [] rfl nofun
  rw [List.append_nil] at hc
  exact hc

/-- An object that begins with an integer that is too long is not read. -/
theorem readChars?_print_tooLong {k : String} {i : Int} {members : Pairs Value}
    (h : ∀ n ≤ 1, Within d n) (hf : d.fits ⟨Nat.toDigits 10 i.natAbs, none, none⟩ = false) :
    readChars? d (print (.object ((k, .int i) :: members))) = none := by
  obtain ⟨rest, hprint, hr⟩ : ∃ rest, print (.object ((k, .int i) :: members)) =
      '\x7b' :: (printText k ++ ':' :: ' ' :: (Numeral.ofInt i ++ rest)) ∧ Follows rest := by
    cases members with
    | nil => exact ⟨['\x7d'], by simp [print, printMembers], follows_cons rfl⟩
    | cons p members =>
      exact ⟨',' :: ' ' :: (printMembers (p :: members) ++ ['\x7d']), by simp [print, printMembers],
        follows_cons rfl⟩
  have hword : ∀ c ∈ Numeral.ofInt i, endsWord c = false := fun c hc =>
    Bool.eq_false_iff.mpr (List.any_eq_false.mp (any_endsWord_ofInt i) c hc)
  have hopen : readChars? d ('\x7b' :: (printText k ++ ':' :: ' ' :: (Numeral.ofInt i ++ rest))) =
      complete d ⟨.between, ⟨[.object []], .key true⟩⟩
        (printText k ++ ':' :: ' ' :: (Numeral.ofInt i ++ rest)) :=
    complete_open_object (h 0 (by decide) : Within d ([] : List Frame).length) false
  rw [hprint, hopen, complete_key (h 1 (by decide)),
    complete_between_word (ofInt_ne_nil i) hword hr, word?_ofInt, hf]
  rfl

end Outlier.Json

import Outlier.Proofs.Json.RoundTrip
import Outlier.Proofs.Text.Utf8

/-! JSON texts by their tokens. Those of a value are read back with one member under each name: of
several the last. -/
namespace Outlier.Json

variable {d : Dialect} {stack : List Frame} {b b₁ b' : Build} {v : Value} {mayClose : Bool}
  {t : Token} {ts us : List Token}

/-- The tokens of the characters that are left, from where a scan stands. -/
def tokensFrom (d : Dialect) : Scan → List Char → Option (List Token)
  | scan, [] => scanEnd d scan
  | scan, c :: s => do
    let (ts, next) ← scanStep d scan c
    return ts ++ (← tokensFrom d next s)

def tokens? (d : Dialect) (s : List Char) : Option (List Token) := tokensFrom d .between s

/-- The value of a build that nothing is left to do in. -/
def Build.result? : Build → Option Value
  | ⟨[], .nothing v⟩ => some v
  | _ => none

theorem readEnd_eq (scan : Scan) :
    readEnd d ⟨scan, b⟩ =
      (scanEnd d scan).bind fun ts => (ts.foldlM (buildStep d) b).bind Build.result? := rfl

/-- Tokens may be built with as they come or once the text has ended. -/
theorem complete_eq_tokensFrom (scan : Scan) (s : List Char) :
    complete d ⟨scan, b⟩ s =
      (tokensFrom d scan s).bind fun ts => (ts.foldlM (buildStep d) b).bind Build.result? := by
  induction s generalizing scan b with
  | nil => exact readEnd_eq scan
  | cons c s ih =>
    rw [complete_cons, readStep, tokensFrom]
    cases hs : scanStep d scan c with
    | none => rfl
    | some p =>
      obtain ⟨ts, next⟩ := p
      simp only [Option.bind_eq_bind, Option.bind_some, Option.pure_def]
      cases hb : ts.foldlM (buildStep d) b with
      | none => cases tokensFrom d next s <;> simp [List.foldlM_append, hb]
      | some b => cases ht : tokensFrom d next s <;> simp [ih, ht, List.foldlM_append, hb]

theorem readChars?_eq_tokens? (s : List Char) :
    readChars? d s = (tokens? d s).bind fun ts =>
      (ts.foldlM (buildStep d) ⟨[], .value false⟩).bind Build.result? :=
  complete_eq_tokensFrom .between s

/-! The tokens of a value. -/

mutual

/-- The tokens of a value, with all members of an object in their order. -/
def tokensOf : Value → List Token
  | .list items => .listOpen :: (tokensOfItems items ++ [.listClose])
  | .object members => .objectOpen :: (tokensOfMembers members ++ [.objectClose])
  | v => [.scalar v]

def tokensOfItems : List Value → List Token
  | [] => []
  | [v] => tokensOf v
  | v :: vs => tokensOf v ++ .comma :: tokensOfItems vs

def tokensOfMembers : List (String × Value) → List Token
  | [] => []
  | [(k, v)] => .scalar (.text k) :: .colon :: tokensOf v
  | (k, v) :: ms => .scalar (.text k) :: .colon :: (tokensOf v ++ .comma :: tokensOfMembers ms)

end

mutual

/-- A value with one member under each name: of several the last. -/
def merged : Value → Value
  | .list items => .list (mergedItems items)
  | .object members => .object (Pairs.ofList (mergedMembers members))
  | v => v

def mergedItems : List Value → List Value
  | [] => []
  | v :: vs => merged v :: mergedItems vs

def mergedMembers : List (String × Value) → List (String × Value)
  | [] => []
  | (k, v) :: ms => (k, merged v) :: mergedMembers ms

end

mutual

/-- How many containers stand around the deepest value. -/
def nesting : Value → Nat
  | .list items => nestingItems items
  | .object members => nestingMembers members
  | _ => 0

def nestingItems : List Value → Nat
  | [] => 0
  | v :: vs => max (nesting v + 1) (nestingItems vs)

def nestingMembers : List (String × Value) → Nat
  | [] => 0
  | (_, v) :: ms => max (nesting v + 1) (nestingMembers ms)

end

theorem mergedItems_eq (items : List Value) : mergedItems items = items.map merged := by
  induction items with
  | nil => rfl
  | cons v items ih => rw [mergedItems, ih, List.map_cons]

theorem mergedMembers_eq (members : Pairs Value) :
    mergedMembers members = members.map fun p => (p.1, merged p.2) := by
  induction members with
  | nil => rfl
  | cons p members ih => rw [mergedMembers, ih, List.map_cons]

/-! A build takes the tokens of a value if their depth is admitted, and puts the merged value where it
belongs. -/

theorem within_iff {n : Nat} : Within d n ↔ ∀ most ∈ d.depth, n ≤ most := by
  unfold Within
  cases d.depth <;> simp

theorem within_of_le {m n : Nat} (hle : m ≤ n) (h : Within d n) : Within d m :=
  within_iff.mpr fun most hm => hle.trans (within_iff.mp h most hm)

theorem within_add_max {k m n : Nat} :
    Within d (k + max m n) ↔ Within d (k + m) ∧ Within d (k + n) := by
  refine ⟨fun h => ⟨within_of_le (by omega) h, within_of_le (by omega) h⟩, fun ⟨hm, hn⟩ => ?_⟩
  rcases Nat.le_total m n with hle | hle
  · rwa [Nat.max_eq_right hle]
  · rwa [Nat.max_eq_left hle]

theorem foldlM_append_iff :
    (ts ++ us).foldlM (buildStep d) b = some b' ↔
      ∃ b₁, ts.foldlM (buildStep d) b = some b₁ ∧ us.foldlM (buildStep d) b₁ = some b' := by
  rw [List.foldlM_append]
  exact Option.bind_eq_some_iff

theorem foldlM_singleton : [t].foldlM (buildStep d) b = buildStep d b t := by
  rw [List.foldlM_cons]
  exact bind_pure _

/-- A token that opens or holds something is taken as if there were no bound, unless it stands too
deep. -/
theorem buildStep_iff (ht : t.closes = false) :
    buildStep d b t = some b' ↔
      Within d b.stack.length ∧ buildStep { d with depth := none } b t = some b' := by
  unfold Within
  cases hd : d.depth.any (· < b.stack.length) <;> simp [buildStep, tooDeep, ht, hd]

theorem foldlM_step (ht : t.closes = false)
    (hb : buildStep { d with depth := none } b t = some b₁) :
    (t :: ts).foldlM (buildStep d) b = some b' ↔
      Within d b.stack.length ∧ ts.foldlM (buildStep d) b₁ = some b' := by
  rw [List.foldlM_cons, Option.bind_eq_bind, Option.bind_eq_some_iff]
  simp only [buildStep_iff ht, hb, Option.some.injEq]
  exact ⟨fun ⟨_, ⟨hd, he⟩, h⟩ => ⟨hd, he ▸ h⟩, fun ⟨hd, h⟩ => ⟨b₁, ⟨hd, rfl⟩, h⟩⟩

def Takes (d : Dialect) (v : Value) : Prop :=
  ∀ stack mayClose b', (tokensOf v).foldlM (buildStep d) ⟨stack, .value mayClose⟩ = some b' ↔
    Within d (stack.length + nesting v) ∧ place (merged v) stack = some b'

theorem takes_scalar (hv : tokensOf v = [.scalar v]) (hm : merged v = v) (hn : nesting v = 0) :
    Takes d v := by
  intro stack mayClose b'
  rw [hv, hm, hn, foldlM_singleton, buildStep_iff rfl]
  rfl

/-- More tokens after those of a value that finds its place. -/
theorem Takes.foldlM_append (hv : Takes d v) (hp : place (merged v) stack = some b₁) :
    (tokensOf v ++ ts).foldlM (buildStep d) ⟨stack, .value mayClose⟩ = some b' ↔
      Within d (stack.length + nesting v) ∧ ts.foldlM (buildStep d) b₁ = some b' := by
  rw [foldlM_append_iff]
  simp only [hv _ _ _, hp, Option.some.injEq]
  exact ⟨fun ⟨_, ⟨hd, he⟩, h⟩ => ⟨hd, he ▸ h⟩, fun ⟨hd, h⟩ => ⟨b₁, ⟨hd, rfl⟩, h⟩⟩

theorem takes_items {items : List Value} (hv : Takes d v) (hi : ∀ w ∈ items, Takes d w)
    (held : List Value) :
    (tokensOfItems (v :: items) ++ [Token.listClose]).foldlM (buildStep d)
        ⟨.list held :: stack, .value mayClose⟩ = some b' ↔
      Within d (stack.length + nestingItems (v :: items)) ∧
        place (.list (held.reverse ++ (v :: items).map merged)) stack = some b' := by
  have hlength (v : Value) (held : List Value) :
      (Frame.list held :: stack).length + nesting v = stack.length + (nesting v + 1) := by
    rw [List.length_cons]
    omega
  induction items generalizing v held mayClose with
  | nil =>
    have hclose : buildStep d ⟨.list (merged v :: held) :: stack, .next⟩ .listClose =
        place (.list (merged v :: held).reverse) stack := rfl
    rw [tokensOfItems, hv.foldlM_append rfl, foldlM_singleton, hclose, hlength, nestingItems,
      nestingItems, Nat.max_zero, List.reverse_cons, List.map_singleton]
  | cons w items ih =>
    have hw : Takes d w := hi w List.mem_cons_self
    have hcomma : buildStep { d with depth := none } ⟨.list (merged v :: held) :: stack, .next⟩
        .comma = some ⟨.list (merged v :: held) :: stack, .value false⟩ := rfl
    have hrest : ∀ u ∈ items, Takes d u := fun u hu => hi u (List.mem_cons_of_mem w hu)
    have htokens : tokensOfItems (v :: w :: items) ++ [Token.listClose] =
        tokensOf v ++ .comma :: (tokensOfItems (w :: items) ++ [.listClose]) := by
      simp [tokensOfItems]
    rw [htokens, hv.foldlM_append rfl, foldlM_step rfl hcomma, hlength, nestingItems, within_add_max]
    simp only [ih hw hrest]
    rw [List.reverse_cons, List.append_assoc, List.singleton_append, ← List.map_cons]
    constructor
    · rintro ⟨hd, -, hn, hplace⟩
      exact ⟨⟨hd, hn⟩, hplace⟩
    · rintro ⟨⟨hd, hn⟩, hplace⟩
      exact ⟨hd, within_of_le (by rw [List.length_cons]; omega) hd, hn, hplace⟩

theorem takes_members {p : String × Value} {members : Pairs Value} (hp : Takes d p.2)
    (hm : ∀ q ∈ members, Takes d q.2) (held : Pairs Value) :
    (tokensOfMembers (p :: members) ++ [Token.objectClose]).foldlM (buildStep d)
        ⟨.object held :: stack, .key mayClose⟩ = some b' ↔
      Within d (stack.length + nestingMembers (p :: members)) ∧
        place (.object (Pairs.putAll held (mergedMembers (p :: members)))) stack = some b' := by
  -- the key and the colon go before the value
  have hfront (k : String) (held : Pairs Value) (mayClose : Bool) (ts : List Token) :
      (Token.scalar (.text k) :: .colon :: ts).foldlM (buildStep d)
          ⟨.object held :: stack, .key mayClose⟩ = some b' ↔
        Within d (stack.length + 1) ∧
          ts.foldlM (buildStep d) ⟨.member held k :: stack, .value false⟩ = some b' := by
    have hkey : buildStep { d with depth := none } ⟨.object held :: stack, .key mayClose⟩
        (.scalar (.text k)) = some ⟨.member held k :: stack, .colon⟩ := by
      simp [buildStep, tooDeep, key?]
    have hcolon : buildStep { d with depth := none } ⟨.member held k :: stack, .colon⟩ .colon =
        some ⟨.member held k :: stack, .value false⟩ := rfl
    rw [foldlM_step rfl hkey, foldlM_step rfl hcolon, List.length_cons, List.length_cons,
      and_self_left]
  have hlength (v : Value) (held : Pairs Value) (k : String) :
      (Frame.member held k :: stack).length + nesting v = stack.length + (nesting v + 1) := by
    rw [List.length_cons]
    omega
  induction members generalizing p held mayClose with
  | nil =>
    obtain ⟨k, v⟩ := p
    have hclose : buildStep d ⟨.object (Pairs.put k (merged v) held) :: stack, .next⟩ .objectClose =
        place (.object (Pairs.put k (merged v) held)) stack := rfl
    rw [tokensOfMembers, List.cons_append, List.cons_append, hfront, hp.foldlM_append rfl,
      foldlM_singleton, hclose, hlength, nestingMembers, nestingMembers, Nat.max_zero]
    exact and_iff_right_of_imp fun h => within_of_le (by omega) h.1
  | cons q members ih =>
    obtain ⟨k, v⟩ := p
    have hq : Takes d q.2 := hm q List.mem_cons_self
    have hcomma : buildStep { d with depth := none }
        ⟨.object (Pairs.put k (merged v) held) :: stack, .next⟩ .comma =
          some ⟨.object (Pairs.put k (merged v) held) :: stack, .key false⟩ := rfl
    have hrest : ∀ u ∈ members, Takes d u.2 := fun u hu => hm u (List.mem_cons_of_mem q hu)
    have htokens : tokensOfMembers ((k, v) :: q :: members) ++ [Token.objectClose] =
        .scalar (.text k) :: .colon ::
          (tokensOf v ++ .comma :: (tokensOfMembers (q :: members) ++ [.objectClose])) := by
      simp [tokensOfMembers]
    rw [htokens, hfront, hp.foldlM_append rfl, foldlM_step rfl hcomma, hlength, nestingMembers,
      within_add_max]
    simp only [ih hq hrest]
    constructor
    · rintro ⟨-, hd, -, hn, hplace⟩
      exact ⟨⟨hd, hn⟩, hplace⟩
    · rintro ⟨⟨hd, hn⟩, hplace⟩
      have hin : Within d (stack.length + 1) := within_of_le (by omega) hd
      exact ⟨hin, hd, hin, hn, hplace⟩

theorem takes_list {items : List Value} (hi : ∀ v ∈ items, Takes d v) : Takes d (.list items) := by
  intro stack mayClose b'
  have hopen : buildStep { d with depth := none } ⟨stack, .value mayClose⟩ .listOpen =
      some ⟨.list [] :: stack, .value true⟩ := rfl
  rw [tokensOf, foldlM_step rfl hopen, merged, mergedItems_eq]
  cases items with
  | nil =>
    rw [tokensOfItems, List.nil_append, foldlM_singleton]
    rfl
  | cons v items =>
    obtain ⟨hv, hi⟩ := List.forall_mem_cons.mp hi
    rw [takes_items hv hi, nesting]
    exact and_iff_right_of_imp fun h => within_of_le (Nat.le_add_right _ _) h.1

theorem takes_object {members : Pairs Value} (hm : ∀ p ∈ members, Takes d p.2) :
    Takes d (.object members) := by
  intro stack mayClose b'
  have hopen : buildStep { d with depth := none } ⟨stack, .value mayClose⟩ .objectOpen =
      some ⟨.object [] :: stack, .key true⟩ := rfl
  rw [tokensOf, foldlM_step rfl hopen, merged]
  cases members with
  | nil =>
    rw [tokensOfMembers, List.nil_append, foldlM_singleton]
    rfl
  | cons p members =>
    obtain ⟨hp, hm⟩ := List.forall_mem_cons.mp hm
    rw [takes_members hp hm, nesting, Pairs.ofList]
    exact and_iff_right_of_imp fun h => within_of_le (Nat.le_add_right _ _) h.1

mutual

theorem takes (d : Dialect) : ∀ v : Value, Takes d v
  | .list items => takes_list (takes_all_items d items)
  | .object members => takes_object (takes_all_members d members)
  | .null => takes_scalar rfl rfl rfl
  | .bool _ => takes_scalar rfl rfl rfl
  | .int _ => takes_scalar rfl rfl rfl
  | .float _ => takes_scalar rfl rfl rfl
  | .text _ => takes_scalar rfl rfl rfl
  | .bytes _ => takes_scalar rfl rfl rfl

theorem takes_all_items (d : Dialect) : ∀ items : List Value, ∀ v ∈ items, Takes d v
  | [] => nofun
  | v :: items => List.forall_mem_cons.mpr ⟨takes d v, takes_all_items d items⟩

theorem takes_all_members (d : Dialect) : ∀ members : List (String × Value),
    ∀ p ∈ members, Takes d p.2
  | [] => nofun
  | (_, v) :: members => List.forall_mem_cons.mpr ⟨takes d v, takes_all_members d members⟩

end

/-- A text with the tokens of a value is read as the merged value, unless it nests too deep. -/
theorem readChars?_of_tokens {s : List Char} {u : Value} (ht : tokens? d s = some (tokensOf v)) :
    readChars? d s = some u ↔ Within d (nesting v) ∧ merged v = u := by
  rw [readChars?_eq_tokens?, ht, Option.bind_some, Option.bind_eq_some_iff]
  simp only [takes d v _ _ _, List.length_nil, Nat.zero_add, place]
  constructor
  · rintro ⟨b, ⟨hd, hb⟩, hr⟩
    cases hb
    cases hr
    exact ⟨hd, rfl⟩
  · rintro ⟨hd, rfl⟩
    exact ⟨_, ⟨hd, rfl⟩, rfl⟩

/-! Texts in which no surrogate stands alone have no bytes among their scalars. -/

def NoBytes (ts : List Token) : Prop := ∀ bs, Token.scalar (.bytes bs) ∉ ts

theorem noBytes_begin? (c : Char) : NoBytes (begin? c).1 := by
  have hplain : ∀ p ∈ punctuation, NoBytes [p.2] := by
    intro p hp bs h
    simp only [punctuation, List.mem_cons, List.not_mem_nil, or_false] at hp
    rcases hp with rfl | rfl | rfl | rfl | rfl | rfl <;> cases List.mem_singleton.mp h
  unfold begin?
  split
  · exact fun _ => List.not_mem_nil
  split
  · exact fun _ => List.not_mem_nil
  split
  · rename_i t ht
    exact hplain (c, t) (mem_of_lookup ht)
  · exact fun _ => List.not_mem_nil

theorem number?_ne_bytes {negative : Bool} {s : List Char} (bs : List UInt8) :
    number? d negative s ≠ some (.bytes bs) := by
  intro h
  obtain ⟨n, -, h⟩ := Option.bind_eq_some_iff.mp h
  obtain ⟨-, -, h⟩ := Option.bind_eq_some_iff.mp h
  split at h <;> cases h

theorem word?_ne_bytes {s : List Char} (bs : List UInt8) : word? d s ≠ some (.bytes bs) := by
  have hwords : ∀ p ∈ words, p.2 ≠ .bytes bs := by simp [words]
  unfold word?
  split
  · rename_i u hu
    exact fun he => hwords _ (mem_of_lookup hu) (Option.some.inj he)
  · split <;> exact number?_ne_bytes bs

theorem string?_ne_bytes (hd : d.loneSurrogates = false) {codes : List Nat} (bs : List UInt8) :
    string? d codes ≠ some (.bytes bs) := by
  unfold string?
  simp only [hd]
  split <;> nofun

theorem noBytes_scanStep (hd : d.loneSurrogates = false) {scan next : Scan} {c : Char}
    (h : scanStep d scan c = some (ts, next)) : NoBytes ts := by
  cases scan with
  | between =>
    have hb : begin? c = (ts, next) := Option.some.inj h
    have hts : ts = (begin? c).1 := (congrArg Prod.fst hb).symm
    exact hts ▸ noBytes_begin? c
  | word cs =>
    rw [scanStep] at h
    split at h
    · obtain ⟨u, hu, h⟩ := Option.bind_eq_some_iff.mp h
      cases h
      intro bs hmem
      rcases List.mem_cons.mp hmem with he | hmem
      · cases he
        exact word?_ne_bytes bs hu
      · exact noBytes_begin? c bs hmem
    · cases h
      exact fun _ => List.not_mem_nil
  | string codes =>
    rw [scanStep] at h
    split at h
    · obtain ⟨u, hu, h⟩ := Option.map_eq_some_iff.mp h
      cases h
      intro bs hmem
      cases List.mem_singleton.mp hmem
      exact string?_ne_bytes hd bs hu
    split at h
    · cases h
      exact fun _ => List.not_mem_nil
    split at h
    · cases h
    · cases h
      exact fun _ => List.not_mem_nil
  | escape codes =>
    rw [scanStep] at h
    split at h
    · cases h
      exact fun _ => List.not_mem_nil
    · obtain ⟨n, -, h⟩ := Option.map_eq_some_iff.mp h
      cases h
      exact fun _ => List.not_mem_nil
  | unicode codes left value =>
    obtain ⟨n, -, h⟩ := Option.bind_eq_some_iff.mp h
    cases h
    exact fun _ => List.not_mem_nil

theorem noBytes_scanEnd {scan : Scan} (h : scanEnd d scan = some ts) : NoBytes ts := by
  cases scan with
  | between =>
    cases h
    exact fun _ => List.not_mem_nil
  | word cs =>
    obtain ⟨u, hu, h⟩ := Option.map_eq_some_iff.mp h
    cases h
    intro bs hmem
    cases List.mem_singleton.mp hmem
    exact word?_ne_bytes bs hu
  | _ => cases h

theorem noBytes_tokensFrom (hd : d.loneSurrogates = false) {s : List Char} {scan : Scan}
    (h : tokensFrom d scan s = some ts) : NoBytes ts := by
  induction s generalizing scan ts with
  | nil => exact noBytes_scanEnd h
  | cons c s ih =>
    obtain ⟨⟨us, next⟩, hs, h⟩ := Option.bind_eq_some_iff.mp h
    obtain ⟨rest, hr, h⟩ := Option.bind_eq_some_iff.mp h
    cases h
    intro bs hmem
    rcases List.mem_append.mp hmem with hmem | hmem
    · exact noBytes_scanStep hd hs bs hmem
    · exact ih hr bs hmem

theorem tokensOf_subset_items {items : List Value} (h : v ∈ items) :
    tokensOf v ⊆ tokensOfItems items := by
  induction items with
  | nil => cases h
  | cons w items ih =>
    have htokens : tokensOf w ⊆ tokensOfItems (w :: items) ∧
        tokensOfItems items ⊆ tokensOfItems (w :: items) := by
      cases items <;> simp [tokensOfItems]
    rcases List.mem_cons.mp h with rfl | h
    · exact htokens.1
    · exact fun t ht => htokens.2 (ih h ht)

theorem tokensOf_subset_members {members : Pairs Value} {p : String × Value} (h : p ∈ members) :
    tokensOf p.2 ⊆ tokensOfMembers members := by
  induction members with
  | nil => cases h
  | cons q members ih =>
    have htokens : tokensOf q.2 ⊆ tokensOfMembers (q :: members) ∧
        tokensOfMembers members ⊆ tokensOfMembers (q :: members) := by
      constructor <;> intro t ht <;> cases members <;> simp_all [tokensOfMembers]
    rcases List.mem_cons.mp h with rfl | h
    · exact htokens.1
    · exact fun t ht => htokens.2 (ih h ht)

/-! Bodies. -/

/-- A body is JSON text of a value, in whatever order and however often it gives its members. -/
def IsTextOf (v : Value) (body : List UInt8) : Prop :=
  (Utf8.decodeChars? body).bind (tokens? strict) = some (tokensOf v)

theorem isTextOf_encode {s : String} :
    IsTextOf v (Utf8.encode s) ↔ tokens? strict s.toList = some (tokensOf v) := by
  rw [IsTextOf, Utf8.encode, Utf8.decodeChars?_encodeChars, Option.bind_some]

theorem readBytes?_of_isTextOf {body : List UInt8} {u : Value} (h : IsTextOf v body) :
    readBytes? body = some u ↔ nesting v ≤ 200 ∧ merged v = u := by
  obtain ⟨s, hs, ht⟩ := Option.bind_eq_some_iff.mp h
  have hd : Within strict (nesting v) ↔ nesting v ≤ 200 := by simp [within_iff, strict]
  rw [readBytes?, hs, ← hd]
  exact readChars?_of_tokens ht

/-- Neither a member of an object that has a text nor an item of such a member is bytes. -/
theorem noBytes_of_isTextOf {body : List UInt8} (h : IsTextOf v body) : NoBytes (tokensOf v) := by
  obtain ⟨s, -, ht⟩ := Option.bind_eq_some_iff.mp h
  exact noBytes_tokensFrom rfl ht

end Outlier.Json

import Outlier.Text.CodeSet

/-! The encoding of texts in letters, digits and hyphens: the ASCII characters as they are, and what
else there is as distances between insertions, in digits of base 36. -/
namespace Outlier.Punycode

def digitChar (d : Nat) : Char := Char.ofNat (if d < 26 then 0x61 + d else 0x30 + d - 26)

def digit? (c : Char) : Option Nat :=
  if 'a' ≤ c ∧ c ≤ 'z' then some (c.toNat - 0x61)
  else if 'A' ≤ c ∧ c ≤ 'Z' then some (c.toNat - 0x41)
  else if '0' ≤ c ∧ c ≤ '9' then some (c.toNat - 0x30 + 26)
  else none

/-- A digit below the threshold of its place ends a distance. -/
def threshold (place bias : Nat) : Nat :=
  if place ≤ bias then 1 else if bias + 26 ≤ place then 26 else place - bias

theorem threshold_pos (place bias : Nat) : 0 < threshold place bias := by
  unfold threshold
  split
  · omega
  · split <;> omega

theorem threshold_le (place bias : Nat) : threshold place bias ≤ 26 := by
  unfold threshold
  split
  · omega
  · split <;> omega

def settle (distance place : Nat) : Nat × Nat :=
  if 455 < distance then settle (distance / 35) (place + 36) else (distance, place)
termination_by distance

/-- The bias for the next distance, from the last one and the length of the text so far. -/
def adapt (distance length : Nat) (isFirst : Bool) : Nat :=
  let d := if isFirst then distance / 700 else distance / 2
  let (d, place) := settle (d + d / length) 0
  place + 36 * d / (d + 38)

/-- A distance in digits from a place on, which is a multiple of 36. -/
def digits (bias place n : Nat) : List Char :=
  let t := threshold place bias
  if n < t then [digitChar n]
  else digitChar (t + (n - t) % (36 - t)) :: digits bias (place + 36) ((n - t) / (36 - t))
termination_by n
decreasing_by
  have := threshold_pos place bias
  calc (n - threshold place bias) / (36 - threshold place bias)
      ≤ n - threshold place bias := Nat.div_le_self _ _
    _ < n := by omega

/-- What has been written, the distance walked since, the bias and how many characters are done. -/
structure Progress where
  written : List Char
  distance : Nat
  bias : Nat
  count : Nat

/-- Walks past a character that is done already, or writes one that is due now. -/
def pass (ascii due : Nat) (p : Progress) (c : Char) : Progress :=
  if c.toNat < due then { p with distance := p.distance + 1 }
  else if c.toNat = due then
    ⟨p.written ++ digits p.bias 36 p.distance, 0,
      adapt p.distance (p.count + 1) (p.count = ascii), p.count + 1⟩
  else p

/-- Writes the characters with the codes that are due, in ascending order. -/
def insertions (s : List Char) (ascii : Nat) : List Nat → Nat → Progress → Progress
  | [], _, p => p
  | due :: rest, next, p =>
    let p := { p with distance := p.distance + (due - next) * (p.count + 1) }
    let p := s.foldl (pass ascii due) p
    insertions s ascii rest (due + 1) { p with distance := p.distance + 1 }

/-- The codes above ASCII in ascending order. -/
def dueCodes (s : List Char) : List Nat :=
  (((s.filter (!isAscii ·)).map Char.toNat).mergeSort (· ≤ ·)).eraseDups

def encode (s : List Char) : List Char :=
  let ascii := s.filter isAscii
  ascii ++ (if ascii.isEmpty then [] else ['-']) ++
    (insertions s ascii.length (dueCodes s) 0x80 ⟨[], 0, 72, ascii.length⟩).written

/-- The distance that digits hold, and what follows them. -/
def distance? (bias place weight sum : Nat) : List Char → Option (Nat × List Char)
  | [] => none
  | c :: s => do
    let d ← digit? c
    if d < threshold place bias then some (sum + d * weight, s)
    else distance? bias (place + 36) (weight * (36 - threshold place bias)) (sum + d * weight) s

theorem length_of_distance? {bias place weight sum : Nat} {s : List Char} {r : Nat × List Char}
    (h : distance? bias place weight sum s = some r) : r.2.length < s.length := by
  induction s generalizing place weight sum with
  | nil => simp [distance?] at h
  | cons c s ih =>
    rw [distance?] at h
    obtain ⟨d, _, h⟩ := Option.bind_eq_some_iff.mp h
    split at h
    · simp [← Option.some.inj h]
    · exact Nat.lt_succ_of_lt (ih h)

/-- Inserts characters of the given code or later ones, from a position on. With a substitute for
characters that do not exist, reading ends before digits that are wrong. -/
def insertAll (substitute? : Option Char) (isFirst : Bool) (bias code position : Nat)
    (out s : List Char) : Option (List Char) :=
  if s.isEmpty then some out
  else match _h : distance? bias 36 1 0 s with
    | none => substitute?.map fun _ => out
    | some (n, rest) =>
      let length := out.length + 1
      let code := code + (position + n) / length
      let here := (position + n) % length
      match if code.isValidChar then some (Char.ofNat code) else substitute? with
      | some c =>
        insertAll substitute? false (adapt n length isFirst) c.toNat (here + 1)
          (out.take here ++ c :: out.drop here) rest
      | none => none
termination_by s.length
decreasing_by exact length_of_distance? (by assumption)

/-- The text before the last hyphen, which may be missing, and the text after it. -/
def splitLast (s : List Char) : List Char × List Char :=
  match s.reverse.span (· != '-') with
  | (back, []) => ([], back.reverse)
  | (back, _ :: front) => (front.reverse, back.reverse)

/-- The text of an encoding in ASCII. -/
def decode? (s : List Char) : Option (List Char) :=
  let (ascii, rest) := splitLast s
  insertAll none true 72 0x80 0 ascii rest

/-- The text of any encoding, as far as it can be read, after what comes before its last hyphen. -/
def decodeLossy (front rest : List Char) : List Char :=
  (insertAll (some '?') true 72 0x80 0 front rest).getD front

end Outlier.Punycode

import Outlier.Charset.Grid.Ksx1001
import Outlier.Charset.Piece

/-! Character sets of the Korean script. -/
namespace Outlier.Charset.Korean

/-- The syllables, in the order of their first consonants, vowels and last consonants, which may be
missing. -/
def syllable (first vowel last : Nat) : Char :=
  Char.ofNat (0xAC00 + 588 * first + 28 * vowel + last)

/-- Marks the letter that is missing. -/
def filler : UInt8 := 0xD4

/-- Which of the thirty consonants, in the order of the letters, begin a syllable. -/
def firsts : List Nat := [0, 1, 3, 6, 7, 8, 16, 17, 18, 20, 21, 22, 23, 24, 25, 26, 27, 28, 29]

/-- Which of them end one. -/
def lasts : List Nat :=
  [0, 1, 2, 3, 4, 5, 6, 8, 9, 10, 11, 12, 13, 14, 15, 16, 17, 19, 20, 21, 22, 23, 25, 26, 27, 28,
    29]

/-- The place of a consonant among those of a list. -/
def place? (list : List Nat) (b : UInt8) : Option Nat :=
  if 0xA1 ≤ b then list.idxOf? (b.toNat - 0xA1) else none

/-- A syllable by its letters. -/
def composed? (first vowel last : UInt8) : Option Char := do
  let first ← place? firsts first
  let last ← if last = filler then some 0 else (place? lasts last).map (· + 1)
  if 0xBF ≤ vowel ∧ vowel ≤ 0xD3 then some (syllable first (vowel.toNat - 0xBF) last) else none

/-- A syllable may be written with a filler and three letters, two bytes for each. -/
def extended : List UInt8 → Piece
  | 0xA4 :: 0xD4 :: 0xA4 :: a :: 0xA4 :: b :: 0xA4 :: c :: _ => .ofChar? 8 1 (composed? a b c)
  | 0xA4 :: 0xD4 :: bs => if bs.length < 6 then .cut else .malformed 1
  | bs => .paired Grid.ksx1001.high? bs

/-! The other syllables follow in their order on free codes. -/

/-- The syllables of the grid, which are in order. -/
def listed : List Char :=
  ((List.range 25).flatMap fun n => ((Grid.ksx1001.lines.lookup (16 + n)).getD "").toList)

/-- The n-th syllable that the grid does not list. -/
def unlisted (n : Nat) : Char :=
  let before := listed.zipIdx.countP fun (c, k) => c.toNat - 0xAC00 - k ≤ n
  Char.ofNat (0xAC00 + n + before)

/-- The place of a second byte: after capital and small letters come the bytes from 0x81 on. -/
def second? (b : UInt8) : Option Nat :=
  if 0x41 ≤ b ∧ b ≤ 0x5A then some (b.toNat - 0x41)
  else if 0x61 ≤ b ∧ b ≤ 0x7A then some (b.toNat - 0x61 + 26)
  else if 0x81 ≤ b ∧ b ≤ 0xFE then some (b.toNat - 0x81 + 52)
  else none

def unlistedCount : Nat := 8822

/-- Up to the first byte 0xA0 all second bytes are free, and those below 0xA1 after that. -/
def free? (a b : UInt8) : Option Char := do
  let n ← second? b
  if a < 0x81 then none
  else if a ≤ 0xA0 then some (unlisted ((a.toNat - 0x81) * 178 + n))
  else if n < 84 then
    let n := 32 * 178 + (a.toNat - 0xA1) * 84 + n
    if n < unlistedCount then some (unlisted n) else none
  else none

def windowsPair? (a b : UInt8) : Option Char := Grid.ksx1001.high? a b <|> free? a b

/-! Johab: five bits for each letter of a syllable. -/

/-- The places of bits that stand for letters. One place stands for no letter. -/
inductive Letter where
  | missing
  | letter (n : Nat)

def firstOf? (n : Nat) : Option Letter :=
  if n = 1 then some .missing else if 2 ≤ n ∧ n ≤ 20 then some (.letter (n - 2)) else none

def vowelOf? (n : Nat) : Option Letter :=
  if n = 2 then some .missing
  else if n < 3 ∨ n % 8 < 2 ∨ 29 < n then none
  else some (.letter (n - 3 - 2 * (n / 8)))

def lastOf? (n : Nat) : Option Letter :=
  if n = 1 then some .missing
  else if 2 ≤ n ∧ n ≤ 17 then some (.letter (n - 2))
  else if 19 ≤ n ∧ n ≤ 29 then some (.letter (n - 3))
  else none

/-- A consonant on its own. -/
def consonant? (list : List Nat) (n : Nat) : Option Char :=
  list[n]?.map fun k => Char.ofNat (0x3131 + k)

def joined? (first vowel last : Letter) : Option Char :=
  match first, vowel, last with
  | .missing, .missing, .missing => some '\u3000'
  | .missing, .missing, .letter n => consonant? lasts n
  | .missing, .letter n, .missing => some (Char.ofNat (0x314F + n))
  | .letter n, .missing, .missing => consonant? firsts n
  | .letter a, .letter b, .missing => some (syllable a b 0)
  | .letter a, .letter b, .letter c => some (syllable a b (c + 1))
  | _, _, _ => none

/-- Characters that are no syllables, two lines of the grid for a first byte. -/
def johabOther? (a b : UInt8) : Option Char :=
  if a < 0xD9 ∨ a = 0xDF ∨ 0xF9 < a ∨ b < 0x31 ∨ (0x80 ≤ b ∧ b < 0x91) ∨ b &&& 0x7F = 0x7F ∨
      (a = 0xDA ∧ 0xA1 ≤ b ∧ b ≤ 0xD3) then none
  else
    let line := if a < 0xE0 then 2 * (a.toNat - 0xD9) else 2 * a.toNat - 0x197
    let n := b.toNat - if b < 0x91 then 0x31 else 0x43
    Grid.ksx1001.cell? (line + n / 94 + 1) (n % 94)

def johab? (a b : UInt8) : Option Char :=
  if a < 0xD8 then do
    let n := a.toNat * 0x100 + b.toNat
    joined? (← firstOf? (n / 0x400 % 32)) (← vowelOf? (n / 0x20 % 32)) (← lastOf? (n % 32))
  else johabOther? a b

end Outlier.Charset.Korean

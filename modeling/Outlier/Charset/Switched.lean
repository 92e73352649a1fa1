import Outlier.Charset.Grid.Gb2312
import Outlier.Charset.Grid.Ksx1001
import Outlier.Charset.Jis2004
import Outlier.Charset.Page.Iso

/-! Text in seven bits that switches between sets of characters by escape sequences. -/
namespace Outlier.Charset.Switched

/-- A set by the last byte of its escape sequence. -/
inductive Mark where
  | narrow (b : UInt8)
  | wide (b : UInt8)
  deriving DecidableEq, Repr

/-- ASCII, which needs no switch at the start. -/
def Mark.plain : Mark := .narrow 0x42

/-- A set that a sequence may switch to. -/
inductive Codes where
  | single (find : UInt8 → Option Char)
  | double (find : UInt8 → UInt8 → Option (List Char))

def Codes.ofGrid (g : Grid) : Codes := .double fun a b => (g.low? a b).map ([·])

/-- A family of texts: the sets beside ASCII, and which of three features it has. Shifts switch to
the second set and back; a third set holds for the next character only; one set may be announced by
a revision in front of it. -/
structure Family where
  sets : List (Mark × Codes)
  shifts : Bool
  third : Bool
  revision : Bool

/-- The sets that are switched on. Inside a sequence of another kind bytes stand for themselves. -/
structure State where
  first : Mark
  second : Mark
  third : Mark
  shifted : Bool
  passing : Bool

def State.start : State := ⟨.plain, .plain, .plain, false, false⟩

def escape : UInt8 := 0x1B

/-- A capital letter or an at sign ends a sequence. -/
def endsSequence (b : UInt8) : Bool := 0x40 ≤ b && b ≤ 0x5A

/-- The bytes that lead a switch: two brackets, a dollar sign, a dot and an ampersand. -/
def leadsSwitch (b : UInt8) : Bool := [0x28, 0x29, 0x24, 0x2E, 0x26].contains b

def longestSequence : Nat := 16

/-- How many bytes a sequence has whose first so many bytes do not end it: none when it is longer
than any may be, and nothing when it is cut off. -/
def sequenceLength (f : Family) (bs : List UInt8) (n : Nat) : Nat → Option Nat
  | 0 => some 0
  | fuel + 1 =>
    if longestSequence ≤ n then some 0
    else match bs[n]? with
      | none => none
      | some b =>
        if endsSequence b then some (n + 1)
        else if f.revision ∧ b = 0x26 ∧ bs[n + 1]? = some 0x40 then
          sequenceLength f bs (n + 3) fuel
        else sequenceLength f bs (n + 1) fuel

def State.withSet (s : State) : Nat → Mark → State
  | 0, m => { s with first := m }
  | 1, m => { s with second := m }
  | _, m => { s with third := m }

/-- The place and the set that a sequence switches to. -/
def switch? (f : Family) : List UInt8 → Option (Nat × Mark)
  | [_, 0x24, b] => some (0, .wide b)
  | [_, 0x28, b] => some (0, .narrow b)
  | [_, 0x29, b] => some (1, .narrow b)
  | [_, 0x2E, b] => if f.third then some (2, .narrow b) else none
  | [_, 0x24, 0x28, b] => some (0, .wide b)
  | [_, 0x24, 0x29, b] => some (1, .wide b)
  | [_, _, _, 0x1B, 0x24, 0x42] => if f.revision then some (0, .wide 0x42) else none
  | _ => none

def sequence (f : Family) (s : State) (bs : List UInt8) : Piece × State :=
  match sequenceLength f bs 1 longestSequence with
  | none => (.cut, s)
  | some 0 => (.malformed 1, s)
  | some n => match switch? f (bs.take n) with
    | some (place, m) =>
      if m = .plain ∨ (f.sets.lookup m).isSome then (.chars [] n, s.withSet place m)
      else (.malformed n, s)
    | none => (.malformed n, s)

/-- A character of a page. -/
def ofPage? (name : String) (b : UInt8) : Option Char := do
  let p ← Page.iso.find? fun p => (CodeSet.words p.names).contains name
  p.chars[b.toNat]?.join

/-- A character of the third set: ASCII, the upper half of Latin, or Greek, whose halves are
exchanged. -/
def ofThird? (s : State) (b : UInt8) : Option Char :=
  if s.third = .narrow 0x46 then ofPage? "iso8859_7" (b ^^^ 0x80)
  else if 0x80 ≤ b then none
  else if s.third = .plain then some (Char.ofNat b.toNat)
  else if s.third = .narrow 0x41 then ofPage? "latin_1" (b + 0x80)
  else none

def character (f : Family) (s : State) : List UInt8 → Piece
  | [] => .cut
  | a :: bs =>
    let m := if s.shifted then s.second else s.first
    match f.sets.lookup m, bs with
    | none, _ => .ofByte a
    | some (.single find), _ => .ofChar? 1 1 (find a)
    | some (.double _), [] => .cut
    | some (.double find), b :: _ => .ofChars? 2 2 (find a b)

def next (f : Family) (s : State) : List UInt8 → Piece × State
  | [] => (.cut, s)
  | a :: bs =>
    if s.passing then (.ofByte a, { s with passing := !endsSequence a })
    else if a = escape then match bs with
      | [] => (.cut, s)
      | b :: rest =>
        if leadsSwitch b then sequence f s (a :: bs)
        else if f.third ∧ b = 0x4E then match rest with
          | [] => (.cut, s)
          | c :: _ => (.ofChar? 3 3 (ofThird? s c), s)
        else (.ofByte a, { s with passing := true })
    else if f.shifts ∧ a = 0x0F then (.chars [] 1, { s with shifted := false })
    else if f.shifts ∧ a = 0x0E then (.chars [] 1, { s with shifted := true })
    else if a = 0x0A then (.ofByte a, { s with shifted := false })
    else if a < 0x20 then (.ofByte a, s)
    else if 0x80 ≤ a then (.malformed 1, s)
    else (character f s (a :: bs), s)

/-- No more bytes than this are held back until the rest of a sequence comes. -/
def longestHeld : Nat := 8

def read? (f : Family) (bs : List UInt8) : Option Utf8.Output :=
  if longestHeld < Piece.cutFrom (next f) .start bs then none
  else some (Piece.readFrom (next f) .start bs)

/-! The sets. -/

def katakana? (b : UInt8) : Option Char :=
  if 0x21 ≤ b ∧ b ≤ 0x5F then some (Char.ofNat (0xFF40 + b.toNat)) else none

def kanji : Mark × Codes := (.wide 0x42, .ofGrid Grid.jis0208)

def kanjiAndRoman : List (Mark × Codes) :=
  [kanji, (.wide 0x40, .ofGrid Grid.jis0208), (.narrow 0x4A, .single Japanese.roman?)]

def rareKanji : Mark × Codes := (.wide 0x44, .ofGrid Grid.jis0212)

def korean : Mark × Codes := (.wide 0x43, .ofGrid Grid.ksx1001)

/-- Sets that only the third place can use. -/
def halves : List (Mark × Codes) :=
  [(.narrow 0x41, .single fun _ => none), (.narrow 0x46, .single fun _ => none)]

def japanese : Family := ⟨kanjiAndRoman, false, false, true⟩

def japanese1 : Family := ⟨rareKanji :: kanjiAndRoman, false, false, true⟩

def japanese2 : Family :=
  ⟨rareKanji :: korean :: (.wide 0x41, .ofGrid Grid.gb2312) :: halves ++ kanjiAndRoman, false,
    true, true⟩

def japaneseExtended : Family :=
  ⟨rareKanji :: (.narrow 0x49, .single katakana?) :: kanjiAndRoman, false, false, true⟩

/-- The two planes of an edition; each edition has a mark of its own for the first. -/
def japanesePlanes (e : Jis2004.Edition) (mark : UInt8) : Family :=
  ⟨[kanji, (.wide mark, .double (Jis2004.lowFirst? e)),
    (.wide 0x50, .double Jis2004.lowSecond?)], false, false, true⟩

def koreanShifted : Family := ⟨[korean], true, false, false⟩

end Outlier.Charset.Switched

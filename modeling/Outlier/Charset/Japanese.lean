import Outlier.Charset.Grid.Jis0208
import Outlier.Charset.Grid.Jis0212
import Outlier.Charset.Grid.WindowsKanji
import Outlier.Charset.Piece

/-! Character sets of the Japanese script. -/
namespace Outlier.Charset.Japanese

/-- Katakana of half width, one byte each. -/
def katakana? (b : UInt8) : Option Char :=
  if 0xA1 ≤ b ∧ b ≤ 0xDF then some (Char.ofNat (0xFEC0 + b.toNat)) else none

/-- ASCII with a currency sign and an overline in place of two marks. -/
def roman? (b : UInt8) : Option Char :=
  if b = 0x5C then some '\u00A5' else if b = 0x7E then some '\u203E' else some (Char.ofNat b.toNat)

/-- Line and column of two bytes, of which the first stands for two lines of 94. -/
def cell? (a b : UInt8) : Option (Nat × Nat) :=
  if b < 0x40 ∨ b = 0x7F ∨ 0xFC < b then none
  else
    let pair := a.toNat - if a < 0xE0 then 0x81 else 0xC1
    let n := b.toNat - if b < 0x80 then 0x40 else 0x41
    some (2 * pair + n / 94 + 1, n % 94)

def find? (g : Grid) (a b : UInt8) : Option Char := do
  let (line, column) ← cell? a b
  g.cell? line column

def isLead (a : UInt8) : Bool := (0x81 ≤ a && a ≤ 0x9F) || (0xE0 ≤ a && a ≤ 0xFC)

def shifted (bs : List UInt8) : Piece :=
  match bs with
  | [] => .cut
  | a :: rest =>
    if a < 0x80 then .ofByte a
    else if isLead a then match rest with
      | [] => .cut
      | b :: _ => .ofChar? 2 1 (find? Grid.jis0208 a b)
    else .ofChar? 1 1 (katakana? a)

/-- The private characters of Windows: 188 for each first byte from 0xF0 on. -/
def private? (a b : UInt8) : Option Char :=
  if b < 0x40 ∨ b = 0x7F ∨ 0xFC < b then none
  else
    let n := b.toNat - if b < 0x80 then 0x40 else 0x41
    some (Char.ofNat (0xE000 + 188 * (a.toNat - 0xF0) + n))

def windowsPair? (a b : UInt8) : Option Char :=
  if 0xF0 ≤ a ∧ a ≤ 0xF9 then private? a b
  else find? Grid.windowsKanji a b <|> (if a ≤ 0xEA then find? Grid.jis0208 a b else none)

def windows : List UInt8 → Piece
  | [] => .cut
  | a :: rest =>
    if a ≤ 0x80 then .ofByte a
    else if a = 0xA0 then .chars ['\uF8F0'] 1
    else if 0xFD ≤ a then .chars [Char.ofNat (0xF8F1 + (a.toNat - 0xFD))] 1
    else match katakana? a, rest with
      | some c, _ => .chars [c] 1
      | none, [] => .cut
      | none, b :: _ => .ofChar? 2 1 (windowsPair? a b)

/-- A shift leads a katakana or the three bytes of a rare character. -/
def extended : List UInt8 → Piece
  | 0x8E :: b :: _ => .ofChar? 2 1 (katakana? b)
  | 0x8F :: b :: c :: _ => .ofChar? 3 1 (Grid.jis0212.high? b c)
  | [0x8F, _] => .cut
  | bs => .paired Grid.jis0208.high? bs

end Outlier.Charset.Japanese

import Outlier.Charset.Grid.Jis0213
import Outlier.Charset.Grid.Jis0213Second
import Outlier.Charset.Japanese

/-! Character sets with the two planes of JIS X 0213, in its edition of 2004 or that of 2000. -/
namespace Outlier.Charset.Jis2004

inductive Edition where
  | older
  | newer
  deriving DecidableEq, Repr

/-- The cells that stand for two characters. -/
def combined : List ((Nat × Nat) × List Char) :=
  [((4, 86), ['\u304B', '\u309A']), ((4, 87), ['\u304D', '\u309A']),
    ((4, 88), ['\u304F', '\u309A']), ((4, 89), ['\u3051', '\u309A']),
    ((4, 90), ['\u3053', '\u309A']), ((5, 86), ['\u30AB', '\u309A']),
    ((5, 87), ['\u30AD', '\u309A']), ((5, 88), ['\u30AF', '\u309A']),
    ((5, 89), ['\u30B1', '\u309A']), ((5, 90), ['\u30B3', '\u309A']),
    ((5, 91), ['\u30BB', '\u309A']), ((5, 92), ['\u30C4', '\u309A']),
    ((5, 93), ['\u30C8', '\u309A']), ((6, 87), ['\u31F7', '\u309A']),
    ((11, 35), ['\u00E6', '\u0300']), ((11, 39), ['\u0254', '\u0300']),
    ((11, 40), ['\u0254', '\u0301']), ((11, 41), ['\u028C', '\u0300']),
    ((11, 42), ['\u028C', '\u0301']), ((11, 43), ['\u0259', '\u0300']),
    ((11, 44), ['\u0259', '\u0301']), ((11, 45), ['\u025A', '\u0300']),
    ((11, 46), ['\u025A', '\u0301']), ((11, 68), ['\u02E9', '\u02E5']),
    ((11, 69), ['\u02E5', '\u02E9'])]

/-- The cells of the newer edition that the older reads as a replacement, by line and column. -/
def added : List (Nat × Nat) :=
  [(14, 0), (15, 93), (47, 51), (47, 93), (84, 6), (94, 89), (94, 90), (94, 91), (94, 92), (94, 93)]

/-- The cell that the editions have different characters for, and the character of the older. -/
def changed : Nat × Nat := (93, 26)

def first? (e : Edition) (line column : Nat) : Option (List Char) :=
  if e = .older ∧ added.contains (line, column) then some ['\uFFFD']
  else
    ((Grid.jis0208.cell? line column <|> Grid.jis0213.cell? line column).map ([·])) <|>
      combined.lookup (line, column)

def second? (e : Edition) (line column : Nat) : Option Char :=
  if e = .older ∧ (line, column) = changed then some '\u9B1D'
  else Grid.jis0213Second.cell? line column

/-- The cell of two bytes from a base on. -/
def cell? (base : UInt8) (a b : UInt8) : Option (Nat × Nat) :=
  if base < a ∧ base < b then some (a.toNat - base.toNat, b.toNat - base.toNat - 1) else none

def extendedFirst? (e : Edition) (a b : UInt8) : Option (List Char) := do
  let (line, column) ← cell? 0xA0 a b
  first? e line column

def extendedSecond? (e : Edition) (a b : UInt8) : Option Char := do
  let (line, column) ← cell? 0xA0 a b
  second? e line column <|> Grid.jis0212.high? a b

/-- A shift leads a katakana or a character of the second plane. -/
def extended (e : Edition) : List UInt8 → Piece
  | 0x8E :: b :: _ => .ofChar? 2 1 (Japanese.katakana? b)
  | 0x8F :: b :: c :: _ => .ofChar? 3 1 (extendedSecond? e b c)
  | [0x8F, _] => .cut
  | bs => .pairedChars (extendedFirst? e) bs

/-- The lines of the second plane in the order of their first bytes. -/
def secondLines : List Nat := [1, 8, 3, 4, 5, 12, 13, 14, 15] ++ List.range' 78 17

/-- The cells of marks that have no wide form here: the backslash and the tilde. -/
def backslash : Nat × Nat := (1, 31)

def tilde : Nat × Nat := (2, 17)

def shiftedPair? (e : Edition) (a b : UInt8) : Option (List Char) := do
  let (line, column) ← Japanese.cell? a b
  if (line, column) = backslash then some ['\x5C']
  else if (line, column) = tilde then some ['~']
  else if line ≤ 94 then first? e line column
  else (second? e (← secondLines[line - 95]?) column).map ([·])

def shifted (e : Edition) : List UInt8 → Piece
  | [] => .cut
  | a :: rest =>
    if a < 0x80 then .ofChar? 1 1 (Japanese.roman? a)
    else if Japanese.isLead a then match rest with
      | [] => .cut
      | b :: _ => .ofChars? 2 1 (shiftedPair? e a b)
    else .ofChar? 1 1 (Japanese.katakana? a)

/-! Pairs in seven bits, of which those of the second plane are of the newer edition. -/

def lowFirst? (e : Edition) (a b : UInt8) : Option (List Char) := do
  let (line, column) ← cell? 0x20 a b
  if (line, column) = tilde then some ['~'] else first? e line column

def lowSecond? (a b : UInt8) : Option (List Char) := do
  let (line, column) ← cell? 0x20 a b
  (second? .newer line column).map ([·])

end Outlier.Charset.Jis2004

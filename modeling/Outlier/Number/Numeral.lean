import Outlier.Number.Decimal

/-! Numerals as written: digits, a fraction and a power of ten. -/
namespace Outlier

/-- An unsigned numeral. A part that is not written is `none`; a written one may lack digits. -/
structure Numeral where
  whole : List Char
  fraction : Option (List Char)
  power : Option (Bool × List Char)
  deriving DecidableEq, Repr

namespace Numeral

def splitDigits (s : List Char) : List Char × List Char :=
  (s.takeWhile Char.isDigit, s.dropWhile Char.isDigit)

def splitFraction : List Char → Option (List Char) × List Char
  | '.' :: s => let (ds, s) := splitDigits s; (some ds, s)
  | s => (none, s)

/-- The power of ten ends the numeral; `true` stands for a negative one. -/
def readPower? : List Char → Option (Option (Bool × List Char))
  | [] => some none
  | c :: s =>
    if c = 'e' ∨ c = 'E' then
      let (negative, s) := match s with
        | '-' :: s => (true, s)
        | '+' :: s => (false, s)
        | s => (false, s)
      if s.all Char.isDigit then some (some (negative, s)) else none
    else none

def ofChars? (s : List Char) : Option Numeral :=
  let (whole, s) := splitDigits s
  let (fraction, s) := splitFraction s
  (readPower? s).map (⟨whole, fraction, ·⟩)

def ofInt (n : Int) : List Char :=
  if n < 0 then '-' :: Nat.toDigits 10 n.natAbs else Nat.toDigits 10 n.natAbs

def natOf (ds : List Char) : Nat := Nat.ofDigitChars 10 ds 0

def isWhole (n : Numeral) : Bool := n.fraction.isNone && n.power.isNone

def toDecimal (n : Numeral) : Decimal :=
  let fraction := n.fraction.getD []
  let power : Int := match n.power with
    | none => 0
    | some (negative, ds) => Binary.signed negative (natOf ds)
  ⟨natOf (n.whole ++ fraction), power - fraction.length⟩

/-- Every written part but one side of the point has digits. -/
def hasDigits (n : Numeral) : Bool :=
  !(n.whole ++ n.fraction.getD []).isEmpty && n.power.all (!·.2.isEmpty)

/-- Every written part has digits, and a leading zero stands alone. -/
def isStrict (n : Numeral) : Bool :=
  (n.whole == ['0'] || (!n.whole.isEmpty && n.whole.head? != some '0')) &&
    n.fraction.all (!·.isEmpty) && n.power.all (!·.2.isEmpty)

end Numeral
end Outlier

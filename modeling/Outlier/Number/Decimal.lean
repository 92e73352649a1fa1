import Outlier.Number.Binary

/-! Decimals: the shortest one that reads back as a given double, and the double nearest to one. -/
namespace Outlier

/-- The number `coefficient * 10 ^ exponent`. -/
structure Decimal where
  coefficient : Nat
  exponent : Int
  deriving DecidableEq, Repr

namespace Decimal

/-- One for a negative exponent. -/
def powerOfTen (e : Int) : Nat := Nat.pow 10 e.toNat

def digitCount (n : Nat) : Nat := (Nat.toDigits 10 n).length

/-- Beyond these powers of ten every decimal rounds to infinity or to zero. -/
def toFloat (d : Decimal) : Float :=
  let top := digitCount d.coefficient + d.exponent
  if d.coefficient = 0 ∨ top < -330 then 0
  else if 310 < top then 1 / 0
  else Float.ofScientific d.coefficient (d.exponent < 0) d.exponent.natAbs

/-- The numbers that round to `m * 2 ^ e`, in units of `1 / (4 * den)`. The gap below a power of
two is half as wide, and the ends belong to an even mantissa. -/
structure Interval where
  lo : Nat
  mid : Nat
  hi : Nat
  den : Nat
  closed : Bool

def Interval.around (m : Nat) (e : Int) : Interval :=
  let unit := Binary.powerOfTwo e
  let below := if m = Binary.hidden ∧ e ≠ Binary.least then 1 else 2
  ⟨(4 * m - below) * unit, 4 * m * unit, (4 * m + 2) * unit, Binary.powerOfTwo (-e), m % 2 = 0⟩

namespace Interval
variable (i : Interval)

/-- The power of ten at which the middle has its first digit. -/
def magnitude : Int :=
  let num := i.mid
  let den := 4 * i.den
  let guess : Int := digitCount num - digitCount den
  if den * powerOfTen guess ≤ num * powerOfTen (-guess) then guess else guess - 1

/-- The point of the grid of multiples of `10 ^ p` that lies in the interval and is nearest to the
middle; of two equally near the even one. -/
def onGrid (p : Int) : Option Decimal :=
  let cell := 4 * i.den * powerOfTen p
  let scale := powerOfTen (-p)
  let inside (c : Nat) :=
    if i.closed then i.lo * scale ≤ c * cell ∧ c * cell ≤ i.hi * scale
    else i.lo * scale < c * cell ∧ c * cell < i.hi * scale
  let mid := i.mid * scale
  let c := mid / cell
  let down := mid - c * cell
  let up := (c + 1) * cell - mid
  let lower := inside c ∧ 0 < c
  let upper := inside (c + 1)
  if lower ∧ (¬ upper ∨ down < up ∨ (down = up ∧ c % 2 = 0)) then some ⟨c, p⟩
  else if upper then some ⟨c + 1, p⟩
  else none

end Interval

/-- Seventeen digits tell any two doubles apart. -/
def mostDigits : Nat := 17

/-- The shortest decimal that rounds to `m * 2 ^ e`, and of those the nearest. -/
def shortest (m : Nat) (e : Int) : Decimal :=
  let i := Interval.around m e
  ((List.range mostDigits).findSome? fun k : Nat => i.onGrid (i.magnitude - k)).getD ⟨m, e⟩

/-- The digits of the coefficient less its trailing zeros, and the place of the point counted from
the first of them. -/
def digits (d : Decimal) : List Char × Int :=
  let all := Nat.toDigits 10 d.coefficient
  ((all.reverse.dropWhile (· == '0')).reverse, all.length + d.exponent)

end Decimal

/-- Powers of ten from `10 ^ lowest` up to below `10 ^ highest` are written with a point, all others
with an exponent of two digits or more. -/
structure Layout where
  lowest : Int
  highest : Int
  infinity : String
  nan : String

namespace Layout
variable (l : Layout)

def zeros (n : Int) : List Char := List.replicate n.toNat '0'

def power (n : Int) : List Char :=
  let ds := Nat.toDigits 10 n.natAbs
  (if n < 0 then '-' else '+') :: (if ds.length < 2 then '0' :: ds else ds)

def unsigned (d : Decimal) : List Char :=
  let (ds, point) := d.digits
  if point ≤ l.lowest ∨ l.highest < point then
    let tail := ds.drop 1
    ds.take 1 ++ (if tail.isEmpty then [] else '.' :: tail) ++ 'e' :: power (point - 1)
  else if point ≤ 0 then '0' :: '.' :: zeros (-point) ++ ds
  else if point < ds.length then ds.take point.toNat ++ '.' :: ds.drop point.toNat
  else ds ++ zeros (point - ds.length) ++ ['.', '0']

def write (x : Float) : String :=
  let sign (negative : Bool) := if negative then "-" else ""
  match Binary.ofFloat x with
  | .nan => l.nan
  | .infinite negative => sign negative ++ l.infinity
  | .finite negative 0 _ => sign negative ++ "0.0"
  | .finite negative m e => sign negative ++ String.ofList (l.unsigned (Decimal.shortest m e))

end Layout
end Outlier

/-! The exact value of a double, read off its bits. -/
namespace Outlier

/-- A finite double is `mantissa * 2 ^ exponent` under its sign. -/
inductive Binary where
  | nan
  | infinite (negative : Bool)
  | finite (negative : Bool) (mantissa : Nat) (exponent : Int)
  deriving DecidableEq, Repr

namespace Binary

/-- The bit of a normal double that its fraction leaves out. -/
def hidden : Nat := 0x10000000000000

def least : Int := -1074

def ofFloat (x : Float) : Binary :=
  let bits := x.toBits.toNat
  let negative := bits / 0x8000000000000000 == 1
  let biased := bits / hidden % 2048
  let fraction := bits % hidden
  if biased = 2047 then if fraction = 0 then .infinite negative else .nan
  else if biased = 0 then .finite negative fraction least
  else .finite negative (fraction + hidden) (biased - 1 + least)

/-- One for a negative exponent. -/
def powerOfTwo (e : Int) : Nat := Nat.pow 2 e.toNat

def signed (negative : Bool) (n : Nat) : Int := if negative then -n else n

/-- The integer a double is equal to, if it is one. -/
def toInt? : Binary → Option Int
  | .finite negative m e =>
    if 0 ≤ e then some (signed negative (m * powerOfTwo e))
    else if m % powerOfTwo (-e) = 0 then some (signed negative (m / powerOfTwo (-e)))
    else none
  | _ => none

def isFinite : Binary → Bool
  | .finite .. => true
  | _ => false

end Binary
end Outlier

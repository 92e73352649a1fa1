import Outlier.Text.Utf8
import Outlier.Value

/-! Bounded text for the journal. -/
namespace Outlier.Excerpt

def standard : Int := 500

/-- The characters up to a length, or all but a number at the end if it is negative. -/
def cut (n : Int) (s : List Char) : List Char :=
  if n < 0 then s.take (s.length - n.natAbs) else s.take n.toNat

def marker (total : Nat) : List Char :=
  "... (truncated, ".toList ++ Nat.toDigits 10 total ++ " total)".toList

/-- A text that is too long is cut and says how long it was. -/
def ofChars (limit : Int) (s : List Char) : List Char :=
  if limit < s.length then cut limit s ++ marker s.length else s

def source : Value → List Char
  | .bytes bs => Utf8.lossyChars bs
  | v => v.plain.toList

/-- Null is never cut. -/
def ofValue (limit : Int) : Value → String
  | .null => "None"
  | v => String.ofList (ofChars limit (source v))

def ofBody (body : List UInt8) : String := ofValue standard (.bytes body)

end Outlier.Excerpt

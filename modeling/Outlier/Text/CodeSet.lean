/-! Sets of characters by the ranges of their codes. -/
namespace Outlier

def isAscii (c : Char) : Bool := c.toNat < 0x80

/-- Ranges of codes, both ends included. -/
structure CodeSet where
  ranges : List (Nat × Nat)
  deriving DecidableEq, Repr

namespace CodeSet

/-- Digits above nine are upper-case letters. -/
def hexDigit (c : Char) : Nat := if c.isDigit then c.toNat - 0x30 else c.toNat - 0x37

def hexValue (s : String) : Nat := s.toList.foldl (fun n c => 16 * n + hexDigit c) 0

/-- One code, or two with a dash between them. -/
def readRange? (s : String) : Option (Nat × Nat) :=
  match s.splitOn "-" with
  | [first] => some (hexValue first, hexValue first)
  | [first, last] => some (hexValue first, hexValue last)
  | _ => none

def words (s : String) : List String :=
  ((s.splitOn "\n").flatMap (·.splitOn " ")).filter (· != "")

/-- Ranges written in hexadecimal with blanks between them. -/
def ofText (s : String) : CodeSet := ⟨(words s).filterMap readRange?⟩

def contains (s : CodeSet) (c : Char) : Bool :=
  s.ranges.any fun r => r.1 ≤ c.toNat && c.toNat ≤ r.2

end CodeSet
end Outlier

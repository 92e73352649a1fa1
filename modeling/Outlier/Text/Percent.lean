import Outlier.Text.Quoted
import Outlier.Text.Utf8

/-! Percent-encoding: what a part of an address cannot hold is written by its bytes. -/
namespace Outlier.Percent

def escapeByte (b : UInt8) : List Char := '%' :: (Quoted.hex 2 b.toNat).map Char.toUpper

def escapeChar (marks : List Char) (c : Char) : List Char :=
  if 0x20 ≤ c.toNat ∧ c.toNat < 0x7F ∧ ¬ marks.contains c then [c]
  else (String.utf8EncodeChar c).flatMap escapeByte

/-- Percent signs stand for themselves, so that what is escaped stays as it is. -/
def escape (marks : List Char) (s : List Char) : List Char := s.flatMap (escapeChar marks)

def hexDigit? (c : Char) : Option Nat :=
  if '0' ≤ c ∧ c ≤ '9' then some (c.toNat - 0x30)
  else if 'a' ≤ c ∧ c ≤ 'f' then some (c.toNat - 0x57)
  else if 'A' ≤ c ∧ c ≤ 'F' then some (c.toNat - 0x37)
  else none

/-- The bytes of a text in which each percent sign with two digits after it stands for a byte. -/
def bytes : List Char → List UInt8
  | [] => []
  | '%' :: a :: b :: s =>
    match hexDigit? a, hexDigit? b with
    | some m, some n => UInt8.ofNat (16 * m + n) :: bytes s
    | _, _ => 0x25 :: bytes (a :: b :: s)
  | c :: s => String.utf8EncodeChar c ++ bytes s

def unescape (s : List Char) : List Char := Utf8.lossyChars (bytes s)

end Outlier.Percent

import Outlier.Text.CodeSet
import Outlier.Text.Utf8

/-! Pages: character sets in which each byte stands for a character, or for none. -/
namespace Outlier.Charset

/-- A page by its names and the codes of its characters, in ranges; a low line is a gap. What is not
listed at the end has no character. Where no more than the upper half of the bytes is listed, the
lower half is ASCII. -/
structure Page where
  names : String
  codes : String

namespace Page

def readRange (s : String) : List (Option Char) :=
  match CodeSet.readRange? s with
  | some (first, last) => (List.range' first (last + 1 - first)).map fun n => some (Char.ofNat n)
  | none => [none]

def readWord (s : String) : List (Option Char) := if s = "_" then [none] else readRange s

def ascii : List (Option Char) := (List.range 0x80).map fun n => some (Char.ofNat n)

/-- The characters of the bytes in order. -/
def chars (p : Page) : List (Option Char) :=
  let listed := (CodeSet.words p.codes).flatMap readWord
  if listed.length ≤ 0x80 then ascii ++ listed else listed

def decode (p : Page) (bs : List UInt8) : Utf8.Output :=
  let table := p.chars.toArray
  bs.map fun b => table[b.toNat]?.join

end Page
end Outlier.Charset

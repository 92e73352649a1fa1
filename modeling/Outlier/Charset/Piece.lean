import Outlier.Text.Utf8

/-! Reading bytes piece by piece: each piece is characters or malformed bytes. -/
namespace Outlier.Charset

/-- What bytes begin with: characters or malformed bytes, with how many bytes they take, which is
one at least, or something whose end is cut off. -/
inductive Piece where
  | chars (cs : List Char) (size : Nat)
  | malformed (size : Nat)
  | cut

namespace Piece
variable {σ : Type}

/-- Bytes in pieces that depend on a state. What is cut off is malformed as a whole. -/
def readFrom (next : σ → List UInt8 → Piece × σ) (s : σ) : List UInt8 → Utf8.Output
  | [] => []
  | b :: bs => match next s (b :: bs) with
    | (.chars cs size, s) => cs.map some ++ readFrom next s (bs.drop (size - 1))
    | (.malformed size, s) => none :: readFrom next s (bs.drop (size - 1))
    | (.cut, _) => [none]
termination_by bs => bs.length
decreasing_by all_goals simp only [List.length_drop, List.length_cons]; omega

/-- How many bytes at the end are cut off. -/
def cutFrom (next : σ → List UInt8 → Piece × σ) (s : σ) : List UInt8 → Nat
  | [] => 0
  | b :: bs => match next s (b :: bs) with
    | (.chars _ size, s) => cutFrom next s (bs.drop (size - 1))
    | (.malformed size, s) => cutFrom next s (bs.drop (size - 1))
    | (.cut, _) => bs.length + 1
termination_by bs => bs.length
decreasing_by all_goals simp only [List.length_drop, List.length_cons]; omega

def read (next : List UInt8 → Piece) (bs : List UInt8) : Utf8.Output :=
  readFrom (fun _ bs => (next bs, ())) () bs

def ofByte (b : UInt8) : Piece := .chars [Char.ofNat b.toNat] 1

/-- Characters of a size, or else malformed bytes. -/
def ofChars? (size malformedSize : Nat) : Option (List Char) → Piece
  | some cs => .chars cs size
  | none => .malformed malformedSize

def ofChar? (size malformedSize : Nat) (c : Option Char) : Piece :=
  ofChars? size malformedSize (c.map ([·]))

/-- Pieces of ASCII and of two bytes for characters. Of a pair without any the second byte is read
again. -/
def pairedChars (find : UInt8 → UInt8 → Option (List Char)) : List UInt8 → Piece
  | [] => .cut
  | a :: bs =>
    if a < 0x80 then ofByte a
    else match bs with
      | [] => .cut
      | b :: _ => ofChars? 2 1 (find a b)

def paired (find : UInt8 → UInt8 → Option Char) : List UInt8 → Piece :=
  pairedChars fun a b => (find a b).map ([·])

end Piece
end Outlier.Charset

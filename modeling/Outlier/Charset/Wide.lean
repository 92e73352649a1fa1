import Outlier.Charset.Piece

/-! UTF-16 and UTF-32, in either order of bytes. -/
namespace Outlier.Charset.Wide

inductive Order where
  | low
  | high
  deriving DecidableEq, Repr

/-- The number that bytes stand for; the order says which of them comes first. -/
def number (o : Order) (bs : List UInt8) : Nat :=
  let bs := match o with
    | .low => bs.reverse
    | .high => bs
  bs.foldl (fun n b => n * 0x100 + b.toNat) 0

/-- The first unit of a character beyond U+FFFF. -/
def isFirst (n : Nat) : Bool := 0xD800 ≤ n && n < 0xDC00

def isSecond (n : Nat) : Bool := 0xDC00 ≤ n && n < 0xE000

def joined (first second : Nat) : Char :=
  Char.ofNat (0x10000 + (first - 0xD800) * 0x400 + (second - 0xDC00))

def units16 (o : Order) : List UInt8 → Piece
  | a :: b :: bs =>
    let first := number o [a, b]
    if isSecond first then .malformed 2
    else if isFirst first then match bs with
      | c :: d :: _ =>
        let second := number o [c, d]
        if isSecond second then .chars [joined first second] 4 else .malformed 2
      | _ => .cut
    else .chars [Char.ofNat first] 2
  | _ => .cut

def units32 (o : Order) : List UInt8 → Piece
  | a :: b :: c :: d :: _ =>
    let n := number o [a, b, c, d]
    if n.isValidChar then .chars [Char.ofNat n] 4 else .malformed 4
  | _ => .cut

/-- The mark that gives the order of bytes. -/
def mark (width : Nat) (o : Order) : List UInt8 :=
  let zeros := List.replicate (width - 2) 0
  match o with
  | .low => 0xFF :: 0xFE :: zeros
  | .high => zeros ++ [0xFE, 0xFF]

/-- Bytes in the order that their mark gives. Without one a whole unit is not read at all. -/
def marked? (width : Nat) (units : Order → List UInt8 → Piece) (bs : List UInt8) :
    Option Utf8.Output :=
  match [Order.low, .high].find? fun o => (mark width o).isPrefixOf bs with
  | some o => some (Piece.read (units o) (bs.drop width))
  | none => if bs.length < width then some (Piece.read (units .low) bs) else none

end Outlier.Charset.Wide

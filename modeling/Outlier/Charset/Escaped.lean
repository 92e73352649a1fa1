import Outlier.Charset.Piece
import Outlier.Text.Percent

/-! Text in which a backslash leads the codes of characters. -/
namespace Outlier.Charset.Escaped

/-- The digits that a code has after its mark. -/
def widthOf? (mark : UInt8) : Option Nat :=
  if mark = 0x75 then some 4 else if mark = 0x55 then some 8 else none

def hexValue (digits : List Nat) : Nat := digits.foldl (16 * · + ·) 0

/-- A code of a width after a backslash and a mark. -/
def code (width : Nat) (bs : List UInt8) : Piece :=
  let digits := (bs.take width).map fun b => Percent.hexDigit? (Char.ofNat b.toNat)
  let good := (digits.takeWhile Option.isSome).filterMap id
  if good.length = width then
    let n := hexValue good
    if n.isValidChar then .chars [Char.ofNat n] (2 + width) else .malformed (2 + width)
  else if good.length = bs.length then .cut
  else .malformed (2 + good.length)

/-- Only the codes of characters are escaped. -/
def raw : List UInt8 → Piece
  | [] => .cut
  | 0x5C :: b :: bs => match widthOf? b with
    | some width => code width bs
    | none => .chars ['\x5C', Char.ofNat b.toNat] 2
  | b :: _ => .ofByte b

/-- The characters that letters stand for. -/
def letters : List (UInt8 × List Char) :=
  [(0x0A, []), (0x5C, ['\x5C']), (0x27, ['\x27']), (0x22, ['\x22']), (0x62, ['\x08']),
    (0x66, ['\x0C']), (0x74, ['\t']), (0x6E, ['\n']), (0x72, ['\r']), (0x76, ['\x0B']),
    (0x61, ['\x07'])]

def isOctal (b : UInt8) : Bool := 0x30 ≤ b && b ≤ 0x37

/-- Names of characters are not known. -/
def named : List UInt8 → Piece
  | 0x7B :: bs =>
    let name := bs.takeWhile (· != 0x7D)
    if name.length = bs.length then .cut
    else .malformed (if name.isEmpty then 3 else name.length + 4)
  | [] => .cut
  | _ => .malformed 2

def full : List UInt8 → Piece
  | [] => .cut
  | [0x5C] => .cut
  | 0x5C :: b :: bs =>
    match letters.lookup b, widthOf? b with
    | some cs, _ => .chars cs 2
    | none, some width => code width bs
    | none, none =>
      if isOctal b then
        let digits := b :: (bs.take 2).takeWhile isOctal
        let code := digits.foldl (fun n d => 8 * n + (d.toNat - 0x30)) 0
        .chars [Char.ofNat code] (1 + digits.length)
      else if b = 0x78 then code 2 bs
      else if b = 0x4E then named bs
      else .chars ['\x5C', Char.ofNat b.toNat] 2
  | b :: _ => .ofByte b

end Outlier.Charset.Escaped

import Outlier.Text.Printable

/-! Quoted text: single quotes unless the text holds some and no double ones, and escapes for what
does not print. -/
namespace Outlier.Quoted

/-- The last `width` hexadecimal digits of a number. -/
def hex (width n : Nat) : List Char :=
  let ds := Nat.toDigits 16 n
  List.replicate (width - ds.length) '0' ++ ds

def quoteFor (hasSingle hasDouble : Bool) : Char := if hasSingle && !hasDouble then '"' else '\''

/-- The escapes that text and bytes share. -/
def escape? (quote : Char) (c : Char) : Option (List Char) :=
  if c = quote ∨ c = '\\' then some ['\\', c]
  else if c = '\n' then some ['\\', 'n']
  else if c = '\r' then some ['\\', 'r']
  else if c = '\t' then some ['\\', 't']
  else none

/-- The shortest escape by code. -/
def codeEscape (c : Char) : List Char :=
  if c.toNat < 0x100 then '\\' :: 'x' :: hex 2 c.toNat
  else if c.toNat < 0x10000 then '\\' :: 'u' :: hex 4 c.toNat
  else '\\' :: 'U' :: hex 8 c.toNat

def char (quote : Char) (c : Char) : List Char :=
  match escape? quote c with
  | some s => s
  | none => if isPrintable c then [c] else codeEscape c

def byte (quote : Char) (b : UInt8) : List Char :=
  match escape? quote (Char.ofNat b.toNat) with
  | some s => s
  | none =>
    if 0x20 ≤ b ∧ b < 0x7F then [Char.ofNat b.toNat] else '\\' :: 'x' :: hex 2 b.toNat

def text (s : String) : String :=
  let quote := quoteFor (s.toList.contains '\'') (s.toList.contains '"')
  String.ofList (quote :: s.toList.flatMap (char quote) ++ [quote])

def bytes (bs : List UInt8) : String :=
  let quote := quoteFor (bs.contains 0x27) (bs.contains 0x22)
  String.ofList ('b' :: quote :: bs.flatMap (byte quote) ++ [quote])

end Outlier.Quoted

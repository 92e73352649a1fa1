import Outlier.Text.Quoted

/-! What keeps bytes from being read as text. -/
namespace Outlier

/-- An encoding that is none of text, that reads text only, or that is never or only strictly read;
bytes without the mark that gives their order; a sequence of too many bytes; a byte outside ASCII; a
name that cannot be looked up; a parameter of which only some parts have numbers. -/
inductive Unreadable where
  | notText
  | notBytes
  | undefined
  | strictOnly
  | unmarked (width : Nat)
  | longSequence
  | notAscii (b : UInt8) (position : Nat)
  | nulInName
  | mixedParts (numberedLast : Bool)
  deriving DecidableEq, Repr

def Unreadable.message : Unreadable → String
  | .notText => ""
  | .notBytes => "descriptor 'translate' for 'str' objects doesn't apply to a 'bytes' object"
  | .undefined => "undefined encoding"
  | .strictOnly => "Unsupported error handling replace"
  | .unmarked width => "UTF-" ++ toString (8 * width) ++ " stream does not start with BOM"
  | .longSequence => "pending buffer overflow"
  | .notAscii b n =>
    "'ascii' codec can't decode byte 0x" ++ String.ofList (Quoted.hex 2 b.toNat) ++
      " in position " ++ toString n ++ ": ordinal not in range(128)"
  | .nulInName => "embedded null character"
  | .mixedParts true => "'<' not supported between instances of 'int' and 'NoneType'"
  | .mixedParts false => "'<' not supported between instances of 'NoneType' and 'int'"

end Outlier

import Outlier.Hostname.Label
import Outlier.Hostname.Punycode

/-! International domain names: each label checked, and encoded in ASCII where it needs to be. -/
namespace Outlier.Hostname

def isDot (c : Char) : Bool := c == '.' || c == '\u3002' || c == '\uFF0E' || c == '\uFF61'

/-- What leads a label that is encoded. -/
def lead : List Char := "xn--".toList

def longestLabel : Nat := 63

def longestName : Nat := 253

/-- A label in ASCII as it reads. -/
def readLabel (label : List Char) : Except Defect (List Char) := do
  let label := label.map Char.toLower
  if lead.isPrefixOf label then
    let encoded := label.drop lead.length
    ensure (!encoded.isEmpty) .nothingEncoded
    ensure (encoded.getLast? != some '-') .hyphenLast
    match Punycode.decode? encoded with
    | none => .error .badEncoding
    | some label => do
      checkLabel label
      return label
  else do
    checkLabel label
    return label

/-- A label as it is written in ASCII. -/
def writeLabel (label : List Char) : Except Defect (List Char) := do
  let written ← if label.all isAscii then do
      let _ ← readLabel label
      pure label
    else do
      checkLabel label
      pure (lead ++ Punycode.encode label)
  ensure (written.length ≤ longestLabel) .labelTooLong
  return written

/-- The labels of a name, and whether a dot ends it. -/
def labels (name : List Char) : Except Defect (List (List Char) × Bool) := do
  ensure (name.length ≤ longestUnencoded) .nameTooLong
  let all := name.splitOnP isDot
  ensure (all != [[]]) .noName
  return if all.getLast? = some [] then (all.dropLast, true) else (all, false)

def joined (labels : List (List Char)) (dotted : Bool) : List Char :=
  List.intercalate ['.'] (labels ++ if dotted then [[]] else [])

/-- A name as it is written in ASCII. -/
def write (name : List Char) : Except Defect (List Char) := do
  let (labels, dotted) ← labels name
  let written := joined (← labels.mapM writeLabel) dotted
  ensure (written.length ≤ longestName + dotted.toNat) .nameTooLong
  return written

/-- A name in ASCII as it reads. -/
def read (name : List Char) : Except Defect (List Char) := do
  let (labels, dotted) ← labels name
  return joined (← labels.mapM readLabel) dotted

end Outlier.Hostname

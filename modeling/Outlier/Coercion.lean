import Outlier.Issue
import Outlier.Text.Blank
import Outlier.Text.Utf8

/-! Reading values as the types that fields have: texts of numbers and truth values count too. -/
namespace Outlier.Coercion

abbrev Result := Except IssueKind

/-- Text, or bytes that are text. -/
def text : Value → Result String
  | .text s => .ok s
  | .bytes bs => match Utf8.decode? bs with
    | some s => .ok s
    | none => .error .notUnicode
  | _ => .error .notText

/-- The characters of a written value; bytes that are no text are unreadable. -/
def written (bad : IssueKind) : Value → Option (Result (List Char))
  | .text s => some (.ok s.toList)
  | .bytes bs => some (match Utf8.decodeChars? bs with
    | some s => .ok s
    | none => .error bad)
  | _ => none

/-- Drops underscores that stand alone and inside. -/
def joinGroups? (s : List Char) : Option (List Char) :=
  let parts := s.splitOn '_'
  if parts.any (·.isEmpty) then none else some parts.flatten

def isNonzeroDigit (c : Char) : Bool := c.isDigit && c != '0'

/-- Drops leading zeros, which underscores may separate, but keeps the last character of a run that
ends the text or stands before a point. A minus sign may follow the run. -/
def significant? : List Char → Option (List Char)
  | [] => none
  | c :: s =>
    if isNonzeroDigit c then some (c :: s)
    else if c = '0' then
      let zeros := c :: s.takeWhile fun d => d == '0' || d == '_'
      let last := zeros.getLast?.toList
      match s.dropWhile fun d => d == '0' || d == '_' with
      | [] => some last
      | '.' :: t => some (last ++ '.' :: t)
      | d :: t => if isNonzeroDigit d || d == '-' then some (d :: t) else none
    else none

/-- Drops a point followed by zeros only. -/
def wholePart (s : List Char) : List Char :=
  match s.dropWhile (· != '.') with
  | '.' :: zeros => if !zeros.isEmpty && zeros.all (· == '0') then s.takeWhile (· != '.') else s
  | _ => s

/-- An integer in its standard form: no sign but a minus and no leading zeros. -/
def standard? : List Char → Option Int
  | '-' :: s => if standsAlone s then some (-Numeral.natOf s) else none
  | s => if standsAlone s then some (Numeral.natOf s) else none
where
  standsAlone (s : List Char) : Bool :=
    s == ['0'] || (s.head?.any isNonzeroDigit && s.all Char.isDigit)

/-- The standard form of an integer written with a plus sign, blanks around it, leading zeros,
underscores or a fraction of zeros. -/
def standardForm? (s : List Char) : Option (List Char) :=
  match trim isBlank s with
  | '-' :: s => (unsigned? s).map ('-' :: ·)
  | '+' :: s => unsigned? s
  | s => unsigned? s
where
  unsigned? (s : List Char) : Option (List Char) :=
    significant? s >>= fun s => joinGroups? (wholePart s)

/-- The most digits an integer may be written with. -/
def longestInteger : Nat := 4300

/-- More digits follow the sign than an integer may have, the first of them no zero. -/
def isHuge (s : List Char) : Bool :=
  let digits := (if s.head? = some '-' then s.tail else s).takeWhile Char.isDigit
  digits.head?.any isNonzeroDigit && longestInteger < digits.length

/-- The integer in standard form that a text holds, or else what comes next. -/
def standardOr (next : Result Int) (s : List Char) : Result Int :=
  if isHuge s then .error .hugeInteger
  else match standard? s with
    | some n => .ok n
    | none => next

def readInteger (s : List Char) : Result Int :=
  standardOr (match standardForm? s with
    | some t => standardOr (.error .unreadableInteger) t
    | none => .error .unreadableInteger) s

/-- The least integer that a signed word of 64 bits cannot hold. -/
def wordEnd : Int := 0x8000000000000000

/-- Strictly between the ends of the range of 64-bit words. -/
def inWord (n : Int) : Bool := -wordEnd < n && n < wordEnd

def integer (v : Value) : Result Int :=
  match written .unreadableInteger v with
  | some s => s >>= readInteger
  | none => match v with
    | .bool b => .ok b.toNat
    | .int n => .ok n
    | .float x =>
      let b := Binary.ofFloat x
      if b.isFinite then match b.toInt? with
        | some n => if inWord n then .ok n else .error .hugeInteger
        | none => .error .fraction
      else .error .infinite
    | _ => .error .notInteger

def lowered (s : List Char) : String := String.ofList (s.map Char.toLower)

def unsigned? (s : List Char) : Option Float :=
  if ["inf", "infinity"].contains (lowered s) then some (1 / 0)
  else if lowered s = "nan" then some (0 / 0)
  else do
    let n ← Numeral.ofChars? s
    if n.hasDigits then some n.toDecimal.toFloat else none

def signedNumber? : List Char → Option Float
  | '-' :: s => (unsigned? s).map (-·)
  | '+' :: s => unsigned? s
  | s => unsigned? s

def readNumber (s : List Char) : Result Float :=
  match signedNumber? (trim isBlank s) <|> (joinGroups? s >>= signedNumber?) with
  | some x => .ok x
  | none => .error .unreadableNumber

/-- The double nearest to an integer, unless it is infinite. -/
def nearest? (n : Int) : Option Float :=
  let x := Decimal.toFloat ⟨n.natAbs, 0⟩
  if (Binary.ofFloat x).isFinite then some (if n < 0 then -x else x) else none

def number (v : Value) : Result Float :=
  match written .unreadableNumber v with
  | some s => s >>= readNumber
  | none => match v with
    | .float x => .ok x
    | .bool b => .ok (if b then 1 else 0)
    | .int n => match nearest? n with
      | some x => .ok x
      | none => .error .notNumber
    | _ => .error .notNumber

def truthWords : List (String × Bool) :=
  [("0", false), ("off", false), ("f", false), ("false", false), ("n", false), ("no", false),
    ("1", true), ("on", true), ("t", true), ("true", true), ("y", true), ("yes", true)]

/-- Of the numbers 0 and 1 stand for truth values. -/
def truthOf (n : Int) : Result Bool :=
  if n = 0 then .ok false else if n = 1 then .ok true else .error .unreadableBool

def boolean (v : Value) : Result Bool :=
  match written .unreadableBool v with
  | some s => do
    match truthWords.lookup (lowered (← s)) with
    | some b => .ok b
    | none => .error .unreadableBool
  | none => match v with
    | .bool b => .ok b
    | .int n => if -wordEnd ≤ n ∧ n < wordEnd then truthOf n else .error .notBool
    | .float x => match (Binary.ofFloat x).toInt? with
      | some n => if inWord n then truthOf n else .error .notBool
      | none => .error .notBool
    | _ => .error .notBool

end Outlier.Coercion

import Outlier.Charset.Known
import Outlier.Exchange.Url
import Outlier.Text.Blank
import Outlier.Text.Lower

/-! The character set that a content type names. -/
namespace Outlier.ContentType

structure Parameter where
  name : List Char
  value : List Char
  deriving DecidableEq, Repr

/-- Parts between semicolons that are not in quotes. A quote after a backslash is none. The part
that is being read comes with the latest character first. -/
def parts (quoted escaped : Bool) (part : List Char) : List Char → List (List Char)
  | [] => [part.reverse]
  | c :: s =>
    if c = ';' ∧ ¬ quoted then part.reverse :: parts false false [] s
    else
      parts (if c = '"' ∧ ¬ escaped then !quoted else quoted) (c = '\\') (c :: part) s

def Parameter.ofPart (part : List Char) : Parameter :=
  match Url.cut '=' part with
  | (name, some value) => ⟨lowerChars (trim isSpace name), trim isSpace value⟩
  | (name, none) => ⟨trim isSpace name, []⟩

/-- Two backslashes stand for one, and then one with a quote for the quote. -/
def unescape (s : List Char) : List Char := quotes (backslashes s)
where
  backslashes : List Char → List Char
    | '\\' :: '\\' :: s => '\\' :: backslashes s
    | c :: s => c :: backslashes s
    | [] => []
  quotes : List Char → List Char
    | '\\' :: '"' :: s => '"' :: quotes s
    | c :: s => c :: quotes s
    | [] => []

/-- A value without the quotes or the angle brackets around it. -/
def unquote (s : List Char) : List Char :=
  let inner := s.tail.dropLast
  if s.length < 2 then s
  else if s.head? = some '"' ∧ s.getLast? = some '"' then unescape inner
  else if s.head? = some '<' ∧ s.getLast? = some '>' then inner
  else s

/-! A value may come in parts, which have numbers, and parts may be encoded. -/

structure Segment where
  number : Option Nat
  value : List Char
  encoded : Bool
  deriving DecidableEq, Repr

def isWord (c : Char) : Bool := c.isAlphanum || c == '_'

/-- The name of the parameter that a part belongs to, and the part. -/
def segment? (p : Parameter) : Option (List Char × Segment) :=
  let (name, rest) := p.name.span isWord
  let digits := (rest.drop 1).takeWhile Char.isDigit
  let last := (rest.drop 1).drop digits.length
  if name.isEmpty || rest.head? != some '*' || !(last.isEmpty || last == ['*']) ||
      (digits.isEmpty && !last.isEmpty) then none
  else
    let number := if digits.isEmpty then none else some (Nat.ofDigitChars 10 digits 0)
    some (name, ⟨number, unquote p.value, p.name.getLast? = some '*'⟩)

def Segment.le (s t : Segment) : Bool :=
  let key (s : Segment) := (s.number.getD 0, String.ofList s.value, s.encoded.toNat)
  let (a, v, m) := key s
  let (b, w, n) := key t
  a < b || (a == b && (v < w || (v == w && m ≤ n)))

/-- Segments in order, of which all have numbers or none has. -/
def ordered (segments : List Segment) : Except Unreadable (List Segment) :=
  let numbered := segments.map (·.number.isSome)
  match (numbered.zip numbered.tail).find? fun (a, b) => a != b with
  | some (_, last) => .error (.mixedParts last)
  | none => .ok (segments.mergeSort Segment.le)

/-- Each percent sign with two digits after it stands for one character. -/
def latin : List Char → List Char
  | [] => []
  | '%' :: a :: b :: s =>
    match Percent.hexDigit? a, Percent.hexDigit? b with
    | some m, some n => Char.ofNat (16 * m + n) :: latin s
    | _, _ => '%' :: latin (a :: b :: s)
  | c :: s => c :: latin s

def Segment.text (s : Segment) : List Char := if s.encoded then latin s.value else s.value

/-- A value, with the character set that it names for itself if it is encoded. -/
structure Value where
  charset : Option (List Char)
  text : List Char

/-- An encoded value begins with a character set and a language, each with a tick behind it. -/
def Value.ofSegments (segments : List Segment) : Value :=
  let text := segments.flatMap Segment.text
  if segments.any (·.encoded) then
    match Url.cut '\x27' text with
    | (charset, some rest) => match Url.cut '\x27' rest with
      | (_, some value) => ⟨some charset, value⟩
      | _ => ⟨some [], text⟩
    | _ => ⟨some [], text⟩
  else ⟨none, text⟩

def groups (found : List (List Char × Segment)) : List (List Char × List Segment) :=
  ((found.map (·.1)).eraseDups).map fun name =>
    (name, (found.filter (·.1 == name)).map (·.2))

/-- The parameters with their values. The first part of a content type is its own; parameters in
segments come last. -/
def values (contentType : String) : Except Unreadable (List (List Char × Value)) := do
  let all := (parts false false [] contentType.toList).map Parameter.ofPart
  let whole (p : Parameter) : List Char × Value := (p.name, ⟨none, unquote p.value⟩)
  let first := all.take 1
  let plain := (all.drop 1).filter fun p => (segment? p).isNone
  let split ← (groups ((all.drop 1).filterMap segment?)).mapM fun (name, segments) => do
    return (name, Value.ofSegments (← ordered segments))
  return (first ++ plain).map whole ++ split

/-- The character set that a name is looked up as. -/
def find? (name : List Char) : Except Unreadable (Option Charset) :=
  if name.contains '\x00' then .error .nulInName else .ok (Charset.ofName? (String.ofList name))

/-- A character as it is read by the character set of a value: by its number, which is written out
where it does not fit into a byte. -/
def rawChar (c : Char) : List Char :=
  if c.toNat < 0x100 then [c]
  else if c.toNat < 0x10000 then '\\' :: 'u' :: Quoted.hex 4 c.toNat
  else '\\' :: 'U' :: Quoted.hex 8 c.toNat

/-- The text of a value. What its own character set does not read stays as it is. -/
def Value.read (v : Value) : Except Unreadable (List Char) :=
  match v.charset with
  | none => .ok v.text
  | some name => do
    if v.text.isEmpty then return []
    let set ← find? (if name.isEmpty then "us-ascii".toList else name)
    let bs := (v.text.flatMap rawChar).map fun c => UInt8.ofNat c.toNat
    return ((set.bind (·.strictText? bs)).map String.toList).getD v.text

/-- The character set that a content type names, if it is known. -/
def charset? (contentType : String) : Except Unreadable (Option Charset) := do
  let named := (← values contentType).find? fun p => p.1.map Char.toLower == "charset".toList
  match named with
  | none => return none
  | some (_, v) =>
    let name ← v.read
    if name.all isAscii then find? name else return none

end Outlier.ContentType

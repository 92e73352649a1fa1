import Outlier.Hostname.Codes
import Outlier.Text.Composition
import Outlier.Text.Direction
import Outlier.Text.Quoted

/-! The rules for a label of an international domain name. -/
namespace Outlier.Hostname

/-- What is wrong with a name. Positions count from 1 within a label. -/
inductive Defect where
  | nameTooLong | noName | labelTooLong | noLabel
  | notComposed | hyphensWithin | hyphenOutside | leadingMark
  | forbidden (c : Char) (position : Nat) (label : List Char)
  | misplaced (c : Char) (position : Nat) (label : List Char)
  | misplacedJoiner (c : Char) (position : Nat) (label : List Char)
  | noDirection (position : Nat) (label : List Char)
  | badStart (label : List Char)
  | againstRight (position : Nat) | againstLeft (position : Nat)
  | mixedNumbers | badEnd
  | nothingEncoded | hyphenLast | badEncoding
  deriving DecidableEq, Repr

namespace Defect

def shown (label : List Char) : String := Quoted.text (String.ofList label)

/-- A code in at least four digits. -/
def codeText (c : Char) : String := "U+" ++ String.ofList ((Quoted.hex 4 c.toNat).map Char.toUpper)

def message : Defect → String
  | .nameTooLong => "Domain too long"
  | .noName => "Empty domain"
  | .labelTooLong => "Label too long"
  | .noLabel => "Empty Label"
  | .notComposed => "Label must be in Normalization Form C"
  | .hyphensWithin => "Label has disallowed hyphens in 3rd and 4th position"
  | .hyphenOutside => "Label must not start or end with a hyphen"
  | .leadingMark => "Label begins with an illegal combining character"
  | .forbidden c n label =>
    "Codepoint " ++ codeText c ++ " at position " ++ toString n ++ " of " ++ shown label ++
      " not allowed"
  | .misplaced c n label =>
    "Codepoint " ++ codeText c ++ " not allowed at position " ++ toString n ++ " in " ++ shown label
  | .misplacedJoiner c n label =>
    "Unknown codepoint adjacent to joiner " ++ codeText c ++ " at position " ++ toString n ++
      " in " ++ shown label
  | .noDirection n label =>
    "Unknown directionality in label " ++ shown label ++ " at position " ++ toString n
  | .badStart label =>
    "First codepoint in label " ++ shown label ++ " must be directionality L, R or AL"
  | .againstRight n =>
    "Invalid direction for codepoint at position " ++ toString n ++ " in a right-to-left label"
  | .againstLeft n =>
    "Invalid direction for codepoint at position " ++ toString n ++ " in a left-to-right label"
  | .mixedNumbers => "Can not mix numeral types in a right-to-left label"
  | .badEnd => "Label ends with illegal codepoint directionality"
  | .nothingEncoded => "Malformed A-label, no Punycode eligible content found"
  | .hyphenLast => "A-label must not end with a hyphen"
  | .badEncoding => "Invalid A-label"

end Defect

abbrev Check := Except Defect Unit

def ensure (holds : Bool) (d : Defect) : Check := if holds then .ok () else .error d

/-! Characters whose place matters. The characters before one come with the latest first. -/

/-- The class of marks that make a consonant lose its vowel. -/
def virama : Nat := 9

def followsVirama (before : List Char) : Bool :=
  before.head?.any fun c => Composition.markClass c == virama

/-- The first neighbour that is not joined across joins as one of the given kinds. -/
def joinsAs (kinds : List Joining) (neighbours : List Char) : Bool :=
  ((neighbours.map joining).find? (· != .transparent)).any kinds.contains

def nonJoiner : Char := '\u200C'

def joiner : Char := '\u200D'

def joinerFits (c : Char) (before after : List Char) : Bool :=
  followsVirama before ||
    (c == nonJoiner && joinsAs [.left, .dual] before && joinsAs [.right, .dual] after)

def isArabicDigit (c : Char) : Bool := '\u0660' ≤ c && c ≤ '\u0669'

def isExtendedDigit (c : Char) : Bool := '\u06F0' ≤ c && c ≤ '\u06F9'

/-- The characters that only some places allow, with what they ask for there. -/
def place? (c : Char) (before after label : List Char) : Option Bool :=
  if c = '\u00B7' then some (before.head? == some 'l' && after.head? == some 'l')
  else if c = '\u0375' then some (after.head?.any greek.contains)
  else if c = '\u05F3' ∨ c = '\u05F4' then some (before.head?.any hebrew.contains)
  else if c = '\u30FB' then some (label.any fun d => d != c && japanese.contains d)
  else if isArabicDigit c then some (!label.any isExtendedDigit)
  else if isExtendedDigit c then some (!label.any isArabicDigit)
  else none

def checkChar (label before after : List Char) (c : Char) : Check :=
  let position := before.length + 1
  if permitted.contains c then .ok ()
  else if c = nonJoiner ∨ c = joiner then
    ensure (joinerFits c before after) (.misplacedJoiner c position label)
  else match place? c before after label with
    | some fits => ensure fits (.misplaced c position label)
    | none => .error (.forbidden c position label)

def checkChars (label before : List Char) : List Char → Check
  | [] => .ok ()
  | c :: s => do
    checkChar label before s c
    checkChars label (c :: before) s

/-! Direction: a label with a character that runs from right to left is bound to rules. -/

def isRight (d : Direction) : Bool := [.rightToLeft, .arabicLetter].contains d

def isNumber (d : Direction) : Bool := [.arabicNumber, .europeanNumber].contains d

/-- The directions that a label may hold whichever way it runs. -/
def shared : List Direction :=
  [.europeanNumber, .europeanSign, .numberSeparator, .europeanTerminator, .neutral, .boundary,
    .mark]

def withinRight (d : Direction) : Bool :=
  isRight d || d == .arabicNumber || shared.contains d

def withinLeft (d : Direction) : Bool := d == .leftToRight || shared.contains d

def endsRight (d : Direction) : Bool := isRight d || isNumber d

def endsLeft (d : Direction) : Bool := d == .leftToRight || d == .europeanNumber

/-- The last direction that is not that of a mark is one that may end the label. -/
def endsWell (ends : Direction → Bool) (ds : List Direction) : Bool :=
  (ds.reverse.find? (· != .mark)).any ends

/-- Numbers of the first kind only. -/
def checkRight (position : Nat) (numbers : Option Direction) : List Direction → Check
  | [] => .ok ()
  | d :: ds => do
    ensure (withinRight d) (.againstRight position)
    if isNumber d then
      ensure (numbers.all (· == d)) .mixedNumbers
      checkRight (position + 1) (some d) ds
    else checkRight (position + 1) numbers ds

def checkLeft (position : Nat) : List Direction → Check
  | [] => .ok ()
  | d :: ds => do
    ensure (withinLeft d) (.againstLeft position)
    checkLeft (position + 1) ds

def checkDirection (label : List Char) : Check :=
  let ds := label.map Direction.ofChar
  match ds.findIdx? (· == .unknown) with
  | some n => .error (.noDirection (n + 1) label)
  | none =>
    if !ds.any fun d => isRight d || d == .arabicNumber then .ok ()
    else match ds.head? with
      | some .leftToRight => do
        checkLeft 1 ds
        ensure (endsWell endsLeft ds) .badEnd
      | some d => do
        ensure (isRight d) (.badStart label)
        checkRight 1 none ds
        ensure (endsWell endsRight ds) .badEnd
      | none => .ok ()

/-! The whole label. -/

/-- The bound on a label before it is encoded. -/
def longestUnencoded : Nat := 254

def checkHyphens (label : List Char) : Check := do
  ensure ((label.drop 2).take 2 != ['-', '-']) .hyphensWithin
  ensure (label.head? != some '-' && label.getLast? != some '-') .hyphenOutside

def checkLabel (label : List Char) : Check := do
  ensure (!label.isEmpty) .noLabel
  ensure (label.length ≤ longestUnencoded) .labelTooLong
  ensure (Composition.canonical label == label) .notComposed
  checkHyphens label
  ensure (!label.head?.any marks.contains) .leadingMark
  checkChars label [] label
  checkDirection label

end Outlier.Hostname

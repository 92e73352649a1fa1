import Outlier.Hostname.International
import Outlier.Text.Lower
import Outlier.Text.Percent

/-! Hosts of addresses: numbers of both versions, names in ASCII and international names. -/
namespace Outlier.Host

inductive Defect where
  | fourParts
  | brackets
  | name (d : Hostname.Defect)
  deriving DecidableEq, Repr

/-- At least four digits, so that three characters stand between groups of them. Any three do, and
digits do too. -/
def looksNumeric (s : List Char) : Bool :=
  let groups := s.splitOnP (!·.isDigit)
  let spare := groups.foldl (fun n g => n + (g.length - 1) / 2) 0
  groups.all (!·.isEmpty) && groups.length ≤ 4 && 4 ≤ groups.length + spare

/-- A number below 256 in decimal, without leading zeros. -/
def isOctet (s : List Char) : Bool :=
  !s.isEmpty && s.all Char.isDigit && s.length ≤ 3 && (s == ['0'] || s.head? != some '0') &&
    Nat.ofDigitChars 10 s 0 < 256

def isVersionFour (s : List Char) : Bool :=
  let parts := s.splitOn '.'
  parts.length == 4 && parts.all isOctet

def isHexDigit (c : Char) : Bool :=
  c.isDigit || ('a' ≤ c && c ≤ 'f') || ('A' ≤ c && c ≤ 'F')

def isGroup (s : List Char) : Bool := !s.isEmpty && s.length ≤ 4 && s.all isHexDigit

/-- The groups of an address of version six. The last two of them may be written as one of version
four. -/
def groups? (s : List Char) : Option (List (List Char)) :=
  let parts := s.splitOn ':'
  let last := parts.getLast?.getD []
  if parts.length < 3 then none
  else if last.contains '.' then
    if isVersionFour last then some (parts.dropLast ++ [['0'], ['0']]) else none
  else some parts

/-- Eight groups. One run of groups may be left out, and only there an end may be empty. -/
def isWhole (parts : List (List Char)) : Bool :=
  let inner := parts.tail.dropLast
  match inner.findIdx? (·.isEmpty) with
  | none => parts.length == 8 && parts.all isGroup
  | some n =>
    let front := parts.take (n + 1)
    let back := parts.drop (n + 2)
    let front := if front == [[]] then [] else front
    let back := if back == [[]] then [] else back
    front.length + back.length < 8 && (front ++ back).all isGroup

/-- A zone, which is not empty, may follow the groups. -/
def isVersionSix (s : List Char) : Bool :=
  let (address, zone) := s.span (· != '%')
  let zoneFits := match zone with
    | [] => true
    | _ :: zone => !zone.isEmpty && !zone.contains '%'
  !s.contains '/' && zoneFits && (groups? address).any isWhole

/-- The marks that a name holds only in escaped form. -/
def marks : List Char := [' ', '#', '/', ':', '<', '>', '?', '@', '[', ']', '^']

/-- A host as an address holds it: version six without its brackets, names in lower case. -/
def read (s : List Char) : Except Defect (List Char) :=
  if s.isEmpty then .ok []
  else if looksNumeric s then
    if isVersionFour s then .ok s else .error .fourParts
  else if s.head? = some '[' ∧ s.getLast? = some ']' ∧ 2 ≤ s.length then
    let inner := s.tail.dropLast
    if isVersionSix inner then .ok inner else .error .brackets
  else if s.all isAscii then .ok (Percent.escape marks (s.map Char.toLower))
  else (Hostname.write (lowerChars s)).mapError .name

/-- A host as an address shows it. -/
def written (host : List Char) : List Char :=
  if host.contains ':' then '[' :: host ++ [']'] else host

end Outlier.Host

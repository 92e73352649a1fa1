/-! UTF-8, written and read one byte at a time, strictly or with malformed parts replaced. -/
namespace Outlier.Utf8

def encodeChars (s : List Char) : List UInt8 := s.flatMap String.utf8EncodeChar

def encode (s : String) : List UInt8 := encodeChars s.toList

/-- Between characters, or inside one: the payload so far, the range of the next byte and how many
bytes are due after that. -/
inductive State where
  | start
  | within (payload : Nat) (lo hi : UInt8) (due : Nat)
  deriving DecidableEq, Repr

/-- What a byte adds to the text: characters, and `none` for a malformed part. -/
abbrev Output := List (Option Char)

/-- A byte that begins a character. The range of the second byte shuts out overlong forms,
surrogates and codes above the last character. -/
def opening (b : UInt8) : Output × State :=
  if b < 0x80 then ([some (Char.ofNat b.toNat)], .start)
  else if b < 0xC2 then ([none], .start)
  else if b < 0xE0 then ([], .within (b.toNat - 0xC0) 0x80 0xBF 0)
  else if b < 0xF0 then
    ([], .within (b.toNat - 0xE0) (if b = 0xE0 then 0xA0 else 0x80)
      (if b = 0xED then 0x9F else 0xBF) 1)
  else if b < 0xF5 then
    ([], .within (b.toNat - 0xF0) (if b = 0xF0 then 0x90 else 0x80)
      (if b = 0xF4 then 0x8F else 0xBF) 2)
  else ([none], .start)

/-- A byte outside the range it must lie in ends a malformed part and is read afresh. -/
def step : State → UInt8 → Output × State
  | .start, b => opening b
  | .within payload lo hi due, b =>
    if lo ≤ b ∧ b ≤ hi then
      let payload := payload * 64 + (b.toNat - 0x80)
      match due with
      | 0 => ([some (Char.ofNat payload)], .start)
      | due + 1 => ([], .within payload 0x80 0xBF due)
    else
      let (out, s) := opening b
      (none :: out, s)

/-- The end of input inside a character is one malformed part. -/
def finish : State → Output
  | .start => []
  | .within .. => [none]

def scan : State → List UInt8 → Output
  | s, [] => finish s
  | s, b :: bs => (step s b).1 ++ scan (step s b).2 bs

def decodeChars? (bs : List UInt8) : Option (List Char) := (scan .start bs).mapM id

/-- The text of well-formed bytes. -/
def decode? (bs : List UInt8) : Option String := (decodeChars? bs).map String.ofList

def lossyChars (bs : List UInt8) : List Char := (scan .start bs).map (·.getD '\uFFFD')

/-- The text of any bytes, each maximal malformed part read as U+FFFD. -/
def decodeLossy (bs : List UInt8) : String := String.ofList (lossyChars bs)

/-- The first malformed part and where it begins. The bytes of the character that is being read come
with the latest first, the number of bytes before them with the state. -/
def malformedFrom (n : Nat) (held : List UInt8) : State → List UInt8 → Option (Nat × List UInt8)
  | .start, [] => none
  | .within .., [] => some (n, held.reverse)
  | s, b :: bs =>
    match step s b with
    | (none :: _, _) => some (n, if held.isEmpty then [b] else held.reverse)
    | (_, .start) => malformedFrom (n + held.length + 1) [] .start bs
    | (_, s) => malformedFrom n (b :: held) s bs

def malformed? (bs : List UInt8) : Option (Nat × List UInt8) := malformedFrom 0 [] .start bs

end Outlier.Utf8

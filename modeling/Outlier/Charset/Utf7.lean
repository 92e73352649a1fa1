import Outlier.Charset.Wide

/-! UTF-7: ASCII, with runs of UTF-16 in base 64 between a plus sign and another mark. -/
namespace Outlier.Charset.Utf7

/-- The value of a digit in base 64. -/
def digit? (b : UInt8) : Option Nat :=
  let n := b.toNat
  if 0x41 ≤ n ∧ n ≤ 0x5A then some (n - 0x41)
  else if 0x61 ≤ n ∧ n ≤ 0x7A then some (n - 0x61 + 26)
  else if 0x30 ≤ n ∧ n ≤ 0x39 then some (n - 0x30 + 52)
  else if n = 0x2B then some 62
  else if n = 0x2F then some 63
  else none

/-- Inside a run: bits that make up no unit yet, their number, and a unit that waits for a
second. -/
structure Run where
  bits : Nat
  count : Nat
  waiting : Option Nat

def Run.start : Run := ⟨0, 0, none⟩

/-- A unit on its own, which must be a character. -/
def lone (n : Nat) : Option Char := if n.isValidChar then some (Char.ofNat n) else none

/-- A unit of a run, after one that waits. -/
def ofUnit (waiting : Option Nat) (n : Nat) : Utf8.Output × Option Nat :=
  match waiting with
  | some first =>
    if Wide.isSecond n then ([some (Wide.joined first n)], none)
    else if Wide.isFirst n then ([none], some n)
    else ([none, lone n], none)
  | none => if Wide.isFirst n then ([], some n) else ([lone n], none)

def Run.push (r : Run) (digit : Nat) : Utf8.Output × Run :=
  let bits := r.bits * 64 + digit
  let count := r.count + 6
  if count < 16 then ([], ⟨bits, count, r.waiting⟩)
  else
    let spare := 1 <<< (count - 16)
    let (out, waiting) := ofUnit r.waiting (bits / spare)
    (out, ⟨bits % spare, count - 16, waiting⟩)

/-- Whether a run ends with whole units and nothing but zeros to fill up a digit. -/
def Run.isWhole (r : Run) : Bool := r.count < 6 && r.bits == 0

def direct (b : UInt8) : Option Char :=
  if b < 0x80 then some (Char.ofNat b.toNat) else none

mutual

/-- Bytes outside a run. -/
def outside : List UInt8 → Utf8.Output
  | [] => []
  | 0x2B :: bs => match bs with
    | [] => []
    | b :: rest =>
      if b = 0x2D then some '+' :: outside rest
      else match digit? b with
        | none => none :: outside rest
        | some _ => inside .start (b :: rest)
  | b :: bs => direct b :: outside bs

/-- Bytes inside a run. The byte that ends a run stands for itself, unless it is a hyphen or the run
is broken. -/
def inside (r : Run) : List UInt8 → Utf8.Output
  | [] => if r.isWhole && r.waiting.isNone then [] else [none]
  | b :: bs => match digit? b with
    | some n =>
      let (out, r) := r.push n
      out ++ inside r bs
    | none =>
      if !r.isWhole then none :: outside bs
      else
        let left := if r.waiting.isSome && b < 0x80 then [none] else []
        left ++ if b = 0x2D then outside bs else direct b :: outside bs

end

end Outlier.Charset.Utf7

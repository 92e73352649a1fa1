import Outlier.Failure
import Outlier.Number.Binary

/-! Clocks that are waited by. They need not take every number of seconds for a wait. -/
namespace Outlier

/-- Why a clock refuses a wait. -/
inductive Clock.Defect where
  | notANumber
  | tooLong
  | negative
  | pastEnd
  deriving DecidableEq, Repr

/-- A refusal is none of the failures that the client knows. -/
def Clock.Defect.failure : Clock.Defect → Failure
  | .notANumber => .trouble (.other "ValueError") "Invalid value NaN (not a number)"
  | .tooLong => .trouble (.other "OverflowError") "timestamp out of range for platform time_t"
  | .negative => .trouble (.other "ValueError") "sleep length must be non-negative"
  | .pastEnd => .trouble (.other "OSError") "[Errno 22] Invalid argument"

/-- What is wrong with a number of seconds, if anything. -/
abbrev Clock := Float → Option Clock.Defect

namespace Clock

/-- A clock that takes whatever it is given. -/
def patient : Clock := fun _ => none

/-- The nanoseconds that a signed 64-bit number does not reach. -/
def range : Int := 0x8000000000000000

/-- Whole units of a magnitude, any rest rounded up. -/
def ceiling (mantissa : Nat) (exponent : Int) : Nat :=
  let unit := Binary.powerOfTwo (-exponent)
  (mantissa * Binary.powerOfTwo exponent + (unit - 1)) / unit

/-- The clock of a computer that has been running for so many nanoseconds. A wait and the moment at
which it ends are whole nanoseconds. -/
def system (now : Nat) : Clock := fun seconds =>
  match Binary.ofFloat (seconds * 1000000000) with
  | .nan => some .notANumber
  | .infinite _ => some .tooLong
  | .finite negative m e =>
    let nanoseconds := Binary.signed negative (ceiling m e)
    if nanoseconds < -range ∨ range ≤ nanoseconds then some .tooLong
    else if nanoseconds < 0 then some .negative
    else if range ≤ now + nanoseconds then some .pastEnd
    else none

example : [1, 9300000000, -1, 9200000000].map (system 100000000000000000) =
    [none, some .tooLong, some .negative, some .pastEnd] := by decide +kernel

end Clock
end Outlier

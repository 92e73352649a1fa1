/-! Waiting between attempts: doubled each time up to a bound, with a random share of the shortest
wait on top. -/
namespace Outlier.Backoff
variable {ν : Type} [Add ν]

def doubled (x : ν) : Nat → ν
  | 0 => x
  | n + 1 => doubled (x + x) n

/-- From this many doublings on the factor itself has no value as a float. -/
def limit : Nat := 1024

variable [OfNat ν 0] [LT ν] [DecidableLT ν]

/-- The wait before retry `n`, counted from 1, less its random share. -/
def steady (shortest longest : ν) (n : Nat) : ν :=
  if limit ≤ n - 1 then longest
  else
    let grown := doubled shortest (n - 1)
    let bounded := if longest < grown then longest else grown
    if 0 < bounded then bounded else 0

def wait [Mul ν] (shortest longest jitter : ν) (n : Nat) : ν :=
  steady shortest longest n + jitter * shortest

/-- Whether the wait before retry `n` has grown up to its bound, by how many doublings that takes.
Logarithms are rounded, so that a bound may be reached where it is a little more than the wait. -/
def isReached (shortest longest : Float) (n : Nat) : Bool :=
  0 < shortest && 0 < longest &&
    (longest.log - shortest.log) / (2 : Float).log ≤ (n - 1).toFloat

end Outlier.Backoff

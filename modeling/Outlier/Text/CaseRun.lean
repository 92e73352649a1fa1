/-! Runs of characters whose case changes by one shift. -/
namespace Outlier

/-- Codes `first, first + stride, …, last` that all move by `shift`. -/
structure CaseRun where
  first : Nat
  last : Nat
  stride : Nat
  shift : Int

namespace CaseRun

def covers (r : CaseRun) (n : Nat) : Bool :=
  r.first ≤ n && n ≤ r.last && (n - r.first) % r.stride == 0

def image (r : CaseRun) (n : Nat) : Char := Char.ofNat (n + r.shift).toNat

end CaseRun
end Outlier

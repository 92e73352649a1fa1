import Outlier.Coercion

/-! Values with all that is wrong with them: every part is checked, whatever the others hold. -/
namespace Outlier

inductive Checked (α : Type) where
  | good (a : α)
  | bad (issues : List Issue)

namespace Checked
variable {α β : Type}

def issues : Checked α → List Issue
  | .good _ => []
  | .bad is => is

/-- The issues of both parts, those of the first before those of the second. -/
def apply : Checked (α → β) → Checked α → Checked β
  | .good f, .good a => .good (f a)
  | f, a => .bad (f.issues ++ a.issues)

instance : Applicative Checked where
  pure := .good
  seq f a := f.apply (a ())

/-- A part under its name; the default stands for one that is not given. -/
def part (name : String) (absent : α) (read : Value → Coercion.Result α) : Option Value → Checked α
  | none => .good absent
  | some v => match read v with
    | .ok a => .good a
    | .error k => .bad [⟨k, [.key name]⟩]

def within (p : Place) : Checked α → Checked α
  | .good a => .good a
  | .bad is => .bad (is.map (·.within p))

end Checked
end Outlier

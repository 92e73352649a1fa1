/-! Grids: characters by lines and columns. -/
namespace Outlier.Charset

/-- Lines of characters, each with its number. A blank marks a cell without a character. -/
structure Grid where
  lines : List (Nat × String)

namespace Grid

/-- The character of a cell; columns count from zero. -/
def cell? (g : Grid) (line column : Nat) : Option Char := do
  let c ← (← g.lines.lookup line).toList[column]?
  if c = ' ' then none else some c

/-- The character of two bytes in a square of 94 lines and columns, which both begin at 0x21. -/
def low? (g : Grid) (a b : UInt8) : Option Char :=
  if 0x21 ≤ a ∧ 0x21 ≤ b then g.cell? (a.toNat - 0x20) (b.toNat - 0x21) else none

/-- The character of two bytes in a square as before, with the highest bit set in both. -/
def high? (g : Grid) (a b : UInt8) : Option Char :=
  if 0xA1 ≤ a ∧ 0xA1 ≤ b then g.cell? (a.toNat - 0xA0) (b.toNat - 0xA1) else none

end Grid
end Outlier.Charset

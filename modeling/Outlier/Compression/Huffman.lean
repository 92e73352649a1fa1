/-! Prefix codes that follow from the lengths of their words. -/
namespace Outlier.Huffman

/-- A code as a tree: a word is the path to a symbol. A gap is a path that no word takes. -/
inductive Tree where
  | gap
  | leaf (symbol : Nat)
  | node (zero one : Tree)
  deriving DecidableEq, Repr

def Tree.isFull : Tree → Bool
  | .gap => false
  | .leaf _ => true
  | .node a b => a.isFull && b.isFull

/-- The bound on the length of words. -/
def longest : Nat := 15

/-- The tree below a path of a length, from words given by length and symbol, the next one first,
and the words that it has no place for. -/
def grow (depth : Nat) : Nat → List (Nat × Nat) → Tree × List (Nat × Nat)
  | _, [] => (.gap, [])
  | 0, (length, symbol) :: words =>
    if length = depth then (.leaf symbol, words) else (.gap, (length, symbol) :: words)
  | left + 1, (length, symbol) :: words =>
    if length = depth then (.leaf symbol, words)
    else
      let (zero, words) := grow (depth + 1) left ((length, symbol) :: words)
      let (one, words) := grow (depth + 1) left words
      (.node zero one, words)

/-- The words of symbols by their lengths. Shorter ones come first, those of one length in the order
of symbols; symbols of length zero have none. -/
def words (lengths : List Nat) : List (Nat × Nat) :=
  (lengths.zipIdx.filter (·.1 != 0)).mergeSort fun p q => p.1 ≤ q.1

/-- The code of the lengths, unless they are too short for all symbols. -/
def ofLengths? (lengths : List Nat) : Option Tree :=
  match grow 0 longest (words lengths) with
  | (tree, []) => some tree
  | _ => none

end Outlier.Huffman

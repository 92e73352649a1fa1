import Outlier.Failure
import Outlier.Pairs
import Outlier.Text.CodeSet

/-! Headers: values under names that ignore case. Those that are sent are in ASCII. -/
namespace Outlier.Header

/-- The first run of characters that a header cannot carry. -/
def unencodable? (s : String) : Option Failure :=
  let (front, rest) := s.toList.span isAscii
  let run := rest.takeWhile (!isAscii ·)
  if run.isEmpty then none else some (.notAscii run front.length)

/-- What is wrong with the first name or value that cannot be carried. -/
def defect? (headers : Pairs String) : Option Failure :=
  headers.findSome? fun h => unencodable? h.1 <|> unencodable? h.2

/-- The values under a name that is given in lower case. -/
def values (headers : Pairs String) (name : String) : List String :=
  (headers.filter fun h => h.1.toList.map Char.toLower == name.toList).map (·.2)

/-- All values under a name as one. -/
def value? (headers : Pairs String) (name : String) : Option String :=
  match values headers name with
  | [] => none
  | vs => some (", ".intercalate vs)

end Outlier.Header

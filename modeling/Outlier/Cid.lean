/-! Canonical identifiers: the patterns a full one must match. -/
namespace Outlier.Cid

/-- A piece of a pattern. A `remainder` is one or more characters on one line. -/
inductive Piece where
  | literal (s : List Char)
  | optional (s : List Char)
  | digits
  | digitsOr (s : List Char)
  | remainder

abbrev Pattern := List Piece

/-- What may be left of a text once a non-empty run of characters of a class is taken off. -/
def afterRun (p : Char → Bool) : List Char → List (List Char)
  | [] => []
  | c :: s => if p c then s :: afterRun p s else []

def afterLiteral : List Char → List Char → List (List Char)
  | [], s => [s]
  | _ :: _, [] => []
  | p :: ps, c :: s => if p = c then afterLiteral ps s else []

def isLineChar (c : Char) : Bool := c != '\n'

def Piece.rests : Piece → List Char → List (List Char)
  | .literal p, s => afterLiteral p s
  | .optional p, s => s :: afterLiteral p s
  | .digits, s => afterRun Char.isDigit s
  | .digitsOr p, s => afterRun Char.isDigit s ++ afterLiteral p s
  | .remainder, s => afterRun isLineChar s

/-- What may be left of a text once the pieces are taken off one after another. -/
def rests (pattern : Pattern) (s : List Char) : List (List Char) :=
  pattern.foldl (fun rs p => rs.flatMap p.rests) [s]

/-- The whole text matches, with nothing left. -/
def accepts (pattern : Pattern) (cid : String) : Bool := (rests pattern cid.toList).contains []

def collectionOf (name : String) : Pattern := [.literal ('/' :: name.toList ++ ['/']), .digits]

def outlierReportNotation : String := "^/outlier_report/[0-9]+$"

/-- The patterns a resource may have, under their usual notation. -/
def supported : List (String × Pattern) :=
  [(outlierReportNotation, collectionOf "outlier_report"),
    ("^/metric_cluster/[0-9]+$", collectionOf "metric_cluster"),
    ("/outlier_report/[0-9]+", collectionOf "outlier_report"),
    ("^/rule_set/[0-9]+_.+$", collectionOf "rule_set" ++ [.literal ['_'], .remainder]),
    ("^/user/([0-9]+|current)$", [.literal "/user/".toList, .digitsOr "current".toList]),
    ("^(/v2)?/check_bundle/[0-9]+$", .optional "/v2".toList :: collectionOf "check_bundle")]

def ofNotation? (s : String) : Option Pattern := supported.lookup s

end Outlier.Cid

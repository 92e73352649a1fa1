import Outlier.Value

/-! Issues: what is wrong with data, and where. -/
namespace Outlier

inductive IssueKind where
  | invalidJson | notRecord
  | notText | notUnicode
  | notInteger | unreadableInteger | hugeInteger | fraction | infinite
  | notList
  | notNumber | unreadableNumber | notAbove | below
  | notBool | unreadableBool
  | unknownLevel (given : String)
  deriving DecidableEq, Repr

namespace IssueKind

def name : IssueKind → String
  | .invalidJson => "json_invalid"
  | .notRecord => "model_type"
  | .notText => "string_type"
  | .notUnicode => "string_unicode"
  | .notInteger => "int_type"
  | .unreadableInteger => "int_parsing"
  | .hugeInteger => "int_parsing_size"
  | .fraction => "int_from_float"
  | .infinite => "finite_number"
  | .notList => "list_type"
  | .notNumber => "float_type"
  | .unreadableNumber => "float_parsing"
  | .notAbove => "greater_than"
  | .below => "greater_than_equal"
  | .notBool => "bool_type"
  | .unreadableBool => "bool_parsing"
  | .unknownLevel _ => "value_error"

/-- The remark that comes with an issue whose kind does not say it all. -/
def remark? : IssueKind → Option String
  | .unknownLevel given => some ("Value error, unknown log level: " ++ given)
  | _ => none

end IssueKind

inductive Place where
  | key (name : String)
  | index (n : Nat)
  deriving DecidableEq, Repr

structure Issue where
  kind : IssueKind
  place : List Place
  deriving DecidableEq, Repr

namespace Issue

def within (p : Place) (i : Issue) : Issue := { i with place := p :: i.place }

end Issue

/-- The verdict on data that is not what `title` names. -/
structure Rejection where
  title : String
  issues : List Issue
  deriving DecidableEq, Repr

namespace Rejection

def heading (r : Rejection) : String :=
  toString r.issues.length ++ " validation error" ++ (if r.issues.length = 1 then "" else "s") ++
    " for " ++ r.title

end Rejection
end Outlier

import Outlier.Value

/-! Misuse of values: what goes wrong where no check comes first. -/
namespace Outlier

/-- A value of a type, or a name, that an operation has no use for. -/
inductive Misuse where
  | notIterable (type : String)
  | lacks (type property : String)
  | unknownField (model name : String)
  | noSetter (model property : String)
  | notClass (type : String)
  | notDictionary (type : String)
  | malformed (part : List UInt8) (position : Nat)
  | tooDeep
  | notText (type : String)
  | bytesForText
  | bytesForStart
  | levelNotInteger
  | notLevel (given : String)
  | unknownLevel (given : String)
  | taken (name : String)
  | takenTwice (name : String)
  | reserved (name : String)
  | unexpected (maker name : String)
  | missing (maker name : String)
  | missingNamed (maker : String) (first second : String)
  | tooMany (maker : String)
  | notPrintable (type : String)
  | unknownType (address : String)
  | notOrdered (type : String)
  deriving DecidableEq, Repr

namespace Misuse

/-- How bytes that are no text are named. -/
def bytesText : List UInt8 → Nat → String
  | [b], n => "byte 0x" ++ String.ofList (Quoted.hex 2 b.toNat) ++ " in position " ++ toString n
  | bs, n => "bytes in position " ++ toString n ++ "-" ++ toString (n + bs.length - 1)

def message : Misuse → String
  | .notIterable type => "'" ++ type ++ "' object is not iterable"
  | .lacks type property => "'" ++ type ++ "' object has no attribute '" ++ property ++ "'"
  | .unknownField model name => "\"" ++ model ++ "\" object has no field \"" ++ name ++ "\""
  | .noSetter model property =>
    "property '" ++ property ++ "' of '" ++ model ++ "' object has no setter"
  | .notClass type => "__class__ must be set to a class, not '" ++ type ++ "' object"
  | .notDictionary type => "__dict__ must be set to a dictionary, not a '" ++ type ++ "'"
  | .malformed part position =>
    "'utf-8' codec can't decode " ++ bytesText part position ++ ": invalid utf-8"
  | .tooDeep => "Maximum serialization depth exceeded"
  | .notText type => "expected string or bytes-like object, got '" ++ type ++ "'"
  | .bytesForText => "cannot use a string pattern on a bytes-like object"
  | .bytesForStart => "startswith first arg must be bytes or a tuple of bytes, not str"
  | .levelNotInteger => "level must be an integer"
  | .notLevel given => "Level not an integer or a valid string: " ++ given
  | .unknownLevel given => "Unknown level: " ++ Quoted.text given
  | .taken name => "log_with_context() got multiple values for argument '" ++ name ++ "'"
  | .takenTwice name =>
    "circonus_client.observability.log_utils.log_with_context()" ++
      " got multiple values for keyword argument '" ++ name ++ "'"
  | .unexpected maker name => maker ++ " got an unexpected keyword argument " ++ Quoted.text name
  | .missing maker name => maker ++ " missing 1 required positional argument: '" ++ name ++ "'"
  | .missingNamed maker first second =>
    maker ++ " missing 2 required keyword-only arguments: '" ++ first ++ "' and '" ++ second ++ "'"
  | .tooMany maker => maker ++ " takes 1 positional argument but 2 were given"
  | .notPrintable type => "__str__ returned non-string (type " ++ type ++ ")"
  | .unknownType address => "unknown url type: " ++ Quoted.text address
  | .notOrdered type => "'>=' not supported between instances of '" ++ type ++ "' and 'int'"
  | .reserved name =>
    Quoted.text ("Attempt to overwrite " ++ Quoted.text name ++ " in LogRecord")

end Misuse

end Outlier

import Outlier.Json.Reader
import Outlier.Settings.File
import Outlier.Text.Lower
import Outlier.Value

/-! Where settings come from: what is given, variables and a settings file, whose names as a rule
ignore case. -/
namespace Outlier

/-- The variables, and the text of the settings file if there is one. -/
structure Environment where
  exported : Pairs String
  file : Option String

/-- What an environment sets, the settings file having been read. -/
structure Sources where
  exported : Pairs String
  filed : Pairs (Option String)

namespace Environment

def sources (e : Environment) : Sources :=
  ⟨e.exported, match e.file with
    | some text => SettingsFile.read e.exported text
    | none => []⟩

end Environment

/-- How a group of settings is looked up: the lead of its variables, whether case tells names apart,
whether empty variables count as absent, the word that stands for null, and whether the settings
file is read. -/
structure Lookup where
  lead : String
  keepsCase : Bool
  skipsEmpty : Bool
  nullWord : Option String
  readsFile : Bool

namespace Lookup

def standard (lead : String) : Lookup := ⟨lead, false, false, none, true⟩

/-- The names of the settings file, of which no directory is part. -/
def isStandardFile : Value → Bool
  | .text s => s == ".env" || s == "./.env"
  | _ => false

def namesFile : Value → Bool
  | .list items => items.any isStandardFile
  | v => isStandardFile v

/-- Options, whose names begin with an underscore, may be given along with the settings. Null leaves
an option as it is, except that it shuts out the settings file. -/
def adjusted (l : Lookup) (given : Pairs Value) : Lookup where
  lead := (text? "_env_prefix").getD l.lead
  keepsCase := (flag? "_case_sensitive").getD l.keepsCase
  skipsEmpty := (flag? "_env_ignore_empty").getD l.skipsEmpty
  nullWord := text? "_env_parse_none_str" <|> l.nullWord
  readsFile := ((given.lookup "_env_file").map namesFile).getD l.readsFile
where
  text? (name : String) : Option String := match given.lookup name with
    | some (.text s) => some s
    | _ => none
  flag? (name : String) : Option Bool := match given.lookup name with
    | some .null | none => none
    | some v => some v.isGiven

variable (l : Lookup)

def fold (name : String) : String := if l.keepsCase then name else lower name

/-- The first part given under a name. -/
def part? (given : Pairs Value) (name : String) : Option Value :=
  (given.find? (l.fold ·.1 == name)).map (·.2)

/-- The last entry of a source under a name with the lead. -/
def entry? {α : Type} (keeps : α → Bool) (entries : Pairs α) (name : String) : Option α :=
  (entries.reverse.find? fun p => keeps p.2 && l.fold p.1 == l.fold (l.lead ++ name)).map (·.2)

def valueOf (s : String) : Value := if l.nullWord = some s then .null else .text s

end Lookup

namespace Sources
variable (s : Sources) (l : Lookup)

def keeps (value : String) : Bool := !(l.skipsEmpty && value.isEmpty)

def named? (name : String) : Option Value := (l.entry? (keeps l) s.exported name).map l.valueOf

/-- A name that the settings file leaves without a value has none. -/
def filed? (name : String) : Option Value :=
  if l.readsFile then (l.entry? (·.all (keeps l)) s.filed name).join.map l.valueOf else none

/-- The value of a name from the first source that has it: what was given, the variable and the
settings file. -/
def value? (given : Pairs Value) (name : String) : Option Value :=
  l.part? given name <|> s.named? l name <|> s.filed? l name

end Sources
end Outlier

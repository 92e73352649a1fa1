import Outlier.Proofs.Fault.Overlay

/-! Collections of details that faults share with whoever gives them. A fault takes over a collection
that holds something: all faults made from it have the same details. -/
namespace Outlier

namespace Pairs
variable {α : Type} {ps new : Pairs α}

end Pairs

namespace FaultKind

/-- The details that one of the kinds that a kind is a case of adds by itself. -/
def own (k : FaultKind) (parts : Pairs Value) (level : FaultKind) : Pairs Value :=
  level.adds.filterMap (k.detail? parts)

end FaultKind

/-- Details on their way through the levels of a kind, which may be the giver's own collection. -/
structure Passage where
  details : Pairs Value
  isGivers : Bool

namespace Passage

/-- A level writes into the collection that it gets, unless that holds nothing: it takes a new one
then. -/
def enter (p : Passage) (own : Pairs Value) : Passage :=
  ⟨p.details.putAll own, p.isGivers && !p.details.isEmpty⟩

/-- Through all levels, the nearest first. -/
def through (k : FaultKind) (parts given : Pairs Value) : Passage :=
  k.lineage.foldl (fun p level => p.enter (k.own parts level)) ⟨given, true⟩

variable {k : FaultKind} {parts given : Pairs Value} {f : FaultKind → Pairs Value}
  {levels : List FaultKind} {p : Passage}

end Passage

/-- Faults made one after another from one collection: what that holds, and the details of each fault
that are its own. A fault without any has the collection itself for its details. -/
structure Family where
  given : Pairs Value
  own : List (Option (Pairs Value))

namespace Family

/-- The details of each fault as they are now. -/
def details (fam : Family) : List (Pairs Value) := fam.own.map (·.getD fam.given)

/-- One more fault. -/
def add (fam : Family) (kind : FaultKind) (parts : Pairs Value) : Family :=
  let p := Passage.through kind parts fam.given
  if p.isGivers then ⟨p.details, fam.own ++ [none]⟩ else ⟨fam.given, fam.own ++ [some p.details]⟩

variable {fam : Family} {kind : FaultKind} {parts : Pairs Value}
  {makings : List (FaultKind × Pairs Value)}

end Family

namespace Fault
variable {kind : FaultKind} {parts given : Pairs Value}

end Fault
end Outlier

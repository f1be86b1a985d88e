import Memberwise.Diagnostic

/-!
# Inclusion

Which properties of a class take part in equality and printing. The policy holds what the decision
takes from the class as a whole; an exclude mark wins over every other rule.
-/

namespace Memberwise

inductive Decision
  /-- Takes part, under that label in printed text. -/
  | included (label : String)
  | excluded
  /-- A mark that cannot be honoured. -/
  | rejected (diagnostic : Diagnostic)
deriving DecidableEq, Repr

namespace Decision

def isIncluded : Decision → Bool
  | included _ => true
  | _ => false

end Decision

structure InclusionPolicy where
  family : Family
  onlyIncluded : Bool
  includeDeferred : Bool
  /-- Data classes compare properties of the primary constructor alone. -/
  dataClass : Bool
deriving DecidableEq, Repr

namespace InclusionPolicy

/-- None where the family was not requested, or decides nothing about single properties. -/
def ofClass? (c : ClassDecl) : Family → Option InclusionPolicy
  | .equality => c.annotations.equality.map fun o =>
    ⟨.equality, o.onlyIncluded, o.includeDeferred, c.kind = .data⟩
  | .printing => c.annotations.printing.map fun o =>
    ⟨.printing, o.onlyIncluded, true, c.kind = .data⟩
  | .building => none

def byDefault (policy : InclusionPolicy) (p : Property) : Decision :=
  if policy.onlyIncluded then .excluded else .included p.name

def decideEquality (policy : InclusionPolicy) (p : Property) : Decision :=
  let inDataBody := policy.dataClass && p.origin = .body
  if p.equality.excluded then .excluded
  else if p.storage = .computed then
    match p.equality.included with
    | some _ => .rejected ((Problem.includeWithoutField p.name).report .error p.location)
    | none => .excluded
  else match p.equality.included with
    | some mark =>
      if inDataBody then .rejected ((Problem.includeInDataBody p.name).report .error p.location)
      else .included (mark.label?.getD p.name)
    | none =>
      if inDataBody then .excluded
      else if p.isDeferred && !policy.includeDeferred then .excluded
      else policy.byDefault p

def decidePrinting (policy : InclusionPolicy) (p : Property) : Decision :=
  if p.printing.excluded then .excluded
  else match p.printing.included with
    | some mark => .included (mark.label?.getD p.name)
    | none => if p.storage = .computed then .excluded else policy.byDefault p

def decide (policy : InclusionPolicy) (p : Property) : Decision :=
  match policy.family with
  | .equality => policy.decideEquality p
  | .printing => policy.decidePrinting p
  | .building => .excluded

end InclusionPolicy

structure Participant where
  property : Property
  label : String
deriving DecidableEq, Repr

structure Resolution where
  family : Family
  participants : List Participant
  rejected : Diagnostics
deriving DecidableEq, Repr

namespace Resolution

def participant? (policy : InclusionPolicy) (p : Property) : Option Participant :=
  match policy.decide p with
  | .included label => some ⟨p, label⟩
  | _ => none

def rejection? (policy : InclusionPolicy) (p : Property) : Option Diagnostic :=
  match policy.decide p with
  | .rejected d => some d
  | _ => none

def compute (properties : List Property) (policy : InclusionPolicy) : Resolution :=
  { family := policy.family,
    participants := properties.filterMap (participant? policy),
    rejected := properties.filterMap (rejection? policy) }

def names (r : Resolution) : List String := r.participants.map (·.property.name)

def isEmpty (r : Resolution) : Bool := r.participants.isEmpty

end Resolution

end Memberwise

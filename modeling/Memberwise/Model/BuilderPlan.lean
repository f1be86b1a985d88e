import Memberwise.Model.Class

/-!
# Builder plans

The private state of a builder: for each constructor parameter a slot with its value, and a flag
where null is not the same as absent.
-/

namespace Memberwise

inductive SlotSource
  /-- An empty slot fails the build. -/
  | required
  /-- The slot is passed on as it is. -/
  | shadow
  /-- An empty slot means the default. -/
  | shadowOrDefault
  /-- The flag tells whether the slot or the default counts. -/
  | flagOrDefault
deriving DecidableEq, Repr, Inhabited

namespace SlotSource

def name : SlotSource → String
  | required => "Required"
  | shadow => "Shadow"
  | shadowOrDefault => "ShadowOrDefault"
  | flagOrDefault => "FlagOrDefault"

def all : List SlotSource := [required, shadow, shadowOrDefault, flagOrDefault]

def ofParameter (p : Parameter) : SlotSource :=
  match p.default?, p.type.nullable with
  | none, false => required
  | none, true => shadow
  | some .null, _ => shadow
  | some _, false => shadowOrDefault
  | some _, true => flagOrDefault

end SlotSource

structure Slot where
  param : Parameter
  source : SlotSource
  valueSlot : String
  valueType : HostType
  flagSlot : Option String
deriving DecidableEq, Repr

namespace Slot

def ofParameter (p : Parameter) : Slot :=
  let source := SlotSource.ofParameter p
  { param := p, source, valueSlot := p.name, valueType := p.type.withNull,
    flagSlot := if source = .flagOrDefault then some (p.name ++ "Set") else none }

def isRequired (s : Slot) : Bool := s.source = .required

def storage (s : Slot) : List String := s.valueSlot :: s.flagSlot.toList

end Slot

structure BuilderPlan where
  target : ClassName
  builder : ClassName
  slots : List Slot
deriving DecidableEq, Repr

namespace BuilderPlan

def ofParams (target builder : ClassName) (params : List Parameter) : BuilderPlan :=
  ⟨target, builder, params.map .ofParameter⟩

def ofClass? (c : ClassDecl) : Option BuilderPlan :=
  c.builder.map fun b => ofParams c.name b.name c.params

def slot? (plan : BuilderPlan) (param : String) : Option Slot :=
  plan.slots.find? (·.param.name = param)

def required (plan : BuilderPlan) : List Slot := plan.slots.filter (·.isRequired)

def storage (plan : BuilderPlan) : List String := plan.slots.flatMap (·.storage)

end BuilderPlan

end Memberwise

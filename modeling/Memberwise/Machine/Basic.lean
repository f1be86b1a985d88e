import Memberwise.Engine.Basic
import Memberwise.Machine.Heap

/-!
# Machines

A machine holds the installed bodies and the superclass of each registered class. Members are
looked up along the superclasses; the walk is bounded by the number of registrations, so that a
cycle among them does no harm.
-/

namespace Memberwise

/-- What object methods do above every installed class. -/
abbrev Root := ObjectRef → ObjectMethod → List Value → Heap → Except Fault Value × Heap

namespace Root

def identity : Root := fun this method args heap =>
  (.ok <| match method with
    | .equals => .bool (args.head? = some (.object this))
    | .hash => .int this.identityHash
    | .print => .text this.text, heap)

end Root

structure Machine where
  bodies : Table (ClassName × Member) Body
  parents : Table ClassName ClassName
  root : Root

namespace Machine

def new (root : Root) : Machine := ⟨∅, ∅, root⟩

def register (m : Machine) (cls : ClassName) (superclass : Option ClassName) : Machine :=
  { m with
    parents := match superclass with
      | some parent => m.parents.insert cls parent
      | none => m.parents.erase cls }

def install (m : Machine) (method : Method) : Machine :=
  { m with bodies := m.bodies.insert (method.owner, method.member) method.body }

def installAll (m : Machine) (s : ClassSynthesis) : Machine :=
  s.methods.foldl install (m.register s.cls s.superclass)

/-- At most `n` classes from `cls` upwards. -/
def climb (m : Machine) : Nat → ClassName → List ClassName
  | 0, _ => []
  | n + 1, cls =>
    cls :: match m.parents.get? cls with
      | some parent => m.climb n parent
      | none => []

def ancestry (m : Machine) (cls : ClassName) : List ClassName := m.climb (m.parents.size + 1) cls

def lookup (m : Machine) (cls : ClassName) (member : Member) : Option Body :=
  (m.ancestry cls).findSome? fun c => m.bodies.get? (c, member)

def isSubclass (m : Machine) (cls target : ClassName) : Bool := (m.ancestry cls).any (· = target)

def isInstance (m : Machine) (v : Value) (cls : ClassName) : Bool :=
  v.object?.any fun r => m.isSubclass r.cls cls

/-- A checked cast, which lets null through. -/
def cast (m : Machine) (v : Value) (cls : ClassName) : Except Fault Value :=
  if v.isNull || m.isInstance v cls then .ok v else .error (.classCast cls v.kind)

end Machine

end Memberwise

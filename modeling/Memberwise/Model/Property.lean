import Memberwise.Model.Family
import Memberwise.Model.Basic
import Memberwise.Text.Ranges

/-!
# Properties

A property of a class with its storage, where it is declared, and the marks that include it in a
family or exclude it.
-/

namespace Memberwise

inductive Storage
  | backed
  /-- Computed on every read. -/
  | computed
  /-- Assigned once after construction; a read before that raises. -/
  | deferred
deriving DecidableEq, Repr, Inhabited

namespace Storage

def name : Storage → String
  | backed => "BackedField"
  | computed => "GetterOnly"
  | deferred => "DeferredInit"

def all : List Storage := [backed, computed, deferred]

def hasField : Storage → Bool
  | computed => false
  | _ => true

end Storage

inductive PropertyOrigin
  | constructor
  | body
deriving DecidableEq, Repr, Inhabited

namespace PropertyOrigin

def name : PropertyOrigin → String
  | constructor => "Constructor"
  | body => "Body"

def all : List PropertyOrigin := [constructor, body]

end PropertyOrigin

structure IncludeMark where
  label : Option String
deriving DecidableEq, Repr

namespace IncludeMark

def plain : IncludeMark := ⟨none⟩

def label? (m : IncludeMark) : Option String := m.label.filter fun s => !Text.isBlank s

end IncludeMark

structure Marks where
  included : Option IncludeMark
  excluded : Bool
deriving DecidableEq, Repr

namespace Marks

def none : Marks := ⟨.none, false⟩

instance : Inhabited Marks := ⟨none⟩

def including : Marks := ⟨some .plain, false⟩

def includingAs (label : String) : Marks := ⟨some ⟨some label⟩, false⟩

def excluding : Marks := ⟨.none, true⟩

def butExcluded (m : Marks) : Marks := { m with excluded := true }

end Marks

structure Property where
  name : String
  type : HostType
  storage : Storage
  origin : PropertyOrigin
  equality : Marks
  printing : Marks
  location : Location
deriving DecidableEq, Repr

namespace Property

/-- Declared in the class body, with a field and without marks. -/
def ofBody (name : String) (type : HostType) : Property :=
  { name, type, storage := .backed, origin := .body, equality := .none, printing := .none,
    location := .unknown }

def ofConstructor (name : String) (type : HostType) : Property :=
  { ofBody name type with origin := .constructor }

def computed (name : String) (type : HostType) : Property :=
  { ofBody name type with storage := .computed }

def deferred (name : String) (type : HostType) : Property :=
  { ofBody name type with storage := .deferred }

def marks? (p : Property) : Family → Option Marks
  | .equality => some p.equality
  | .printing => some p.printing
  | .building => .none

def isDeferred (p : Property) : Bool := p.storage = .deferred

def hasField (p : Property) : Bool := p.storage.hasField

end Property

end Memberwise

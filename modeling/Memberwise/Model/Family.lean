/-!
# Families of members

Members are requested, checked and synthesized by family. The object methods are those that every
class inherits from the root class.
-/

namespace Memberwise

inductive Family
  | equality
  | printing
  | building
deriving DecidableEq, Repr, Inhabited

namespace Family

def name : Family → String
  | equality => "EqualsAndHashCode"
  | printing => "ToString"
  | building => "Buildable"

/-- The order in which families are checked and synthesized. -/
def all : List Family := [equality, printing, building]

end Family

inductive ObjectMethod
  | equals
  | hash
  | print
deriving DecidableEq, Repr, Inhabited

namespace ObjectMethod

def name : ObjectMethod → String
  | equals => "equals"
  | hash => "hashCode"
  | print => "toString"

def all : List ObjectMethod := [equals, hash, print]

end ObjectMethod

/-- The nearest declaration of an object method that a user wrote, as seen from a class. -/
structure UserMethod where
  declaredHere : Bool
  isFinal : Bool
deriving DecidableEq, Repr

namespace UserMethod

def declared : UserMethod := ⟨true, false⟩

def inheritedFinal : UserMethod := ⟨false, true⟩

def inheritedOpen : UserMethod := ⟨false, false⟩

def blocks (m : UserMethod) : Bool := m.declaredHere || m.isFinal

end UserMethod

structure UserMethods where
  equals : Option UserMethod
  hash : Option UserMethod
  print : Option UserMethod
deriving DecidableEq, Repr

namespace UserMethods

def none : UserMethods := ⟨.none, .none, .none⟩

instance : Inhabited UserMethods := ⟨none⟩

def find? (ms : UserMethods) : ObjectMethod → Option UserMethod
  | .equals => ms.equals
  | .hash => ms.hash
  | .print => ms.print

/-- A later report on a method replaces an earlier one. -/
def report (ms : UserMethods) (method : ObjectMethod) (found : UserMethod) : UserMethods :=
  match method with
  | .equals => { ms with equals := some found }
  | .hash => { ms with hash := some found }
  | .print => { ms with print := some found }

end UserMethods

end Memberwise

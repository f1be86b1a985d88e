import Memberwise.Body.Expr
import Memberwise.Text.Quoted

/-!
# Members

The members that can be synthesized for a class, with their names in text. Members of the builder
are written after a common first part; a setter called `build` cannot be told from `build` there.
-/

namespace Memberwise

inductive Member
  | equals
  | hash
  | print
  | setter (param : String)
  | build
deriving DecidableEq, Repr, Inhabited

namespace Member

def ofObjectMethod : ObjectMethod → Member
  | .equals => equals
  | .hash => hash
  | .print => print

def family : Member → Family
  | equals | hash => .equality
  | print => .printing
  | setter _ | build => .building

def methodName : Member → String
  | equals => ObjectMethod.equals.name
  | hash => ObjectMethod.hash.name
  | print => ObjectMethod.print.name
  | setter param => param
  | build => buildMethod

def builderLead : List Char := "Builder.".toList

def text : Member → String
  | setter param => String.ofList (builderLead ++ param.toList)
  | build => String.ofList (builderLead ++ buildMethod.toList)
  | m => m.methodName

def afterLead? (cs : List Char) : Option (List Char) :=
  if builderLead.isPrefixOf cs then some (cs.drop builderLead.length) else none

def ofText? (s : String) : Option Member :=
  if s = ObjectMethod.equals.name then some equals
  else if s = ObjectMethod.hash.name then some hash
  else if s = ObjectMethod.print.name then some print
  else match afterLead? s.toList with
    | none => none
    | some [] => none
    | some cs => if cs = buildMethod.toList then some build else some (setter (String.ofList cs))

structure Unknown where
  text : String
deriving DecidableEq, Repr

def Unknown.message (e : Unknown) : String :=
  "unknown synthesis target " ++ Text.inQuotes e.text

def parse (s : String) : Except Unknown Member := (ofText? s).elim (.error ⟨s⟩) .ok

/-- Equality and printing first, then the setters by name, then `build`. -/
def rank : Member → Nat
  | equals => 0
  | hash => 1
  | print => 2
  | setter _ => 3
  | build => 4

def lt : Member → Member → Bool
  | setter p, setter q => p < q
  | m, n => m.rank < n.rank

end Member

structure Method where
  member : Member
  owner : ClassName
  body : Body
deriving Repr

namespace Method

def origin (m : Method) : Family := m.member.family

end Method

end Memberwise

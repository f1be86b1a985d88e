import Memberwise.Model.Basic
import Memberwise.Text.Quoted

/-!
# Constructor parameters

Parameters of the primary constructor with their defaults. A default may be an expression of the
host, which is carried along as text.
-/

namespace Memberwise

inductive Literal
  | bool (b : Bool)
  | int (i : Int32)
  | long (l : Int64)
  | text (s : String)
deriving DecidableEq, Repr

namespace Literal

def shown : Literal → String
  | bool b => toString b
  | int i => toString i.toInt
  | long l => toString l.toInt
  | text s => Text.quoted s

end Literal

inductive Default
  | null
  | literal (l : Literal)
  | source (text : String)
deriving DecidableEq, Repr

namespace Default

def shown : Default → String
  | null => "null"
  | literal l => l.shown
  | source text => text

def isNull : Default → Bool
  | null => true
  | _ => false

end Default

structure Parameter where
  name : String
  type : HostType
  default? : Option Default
  location : Location
deriving DecidableEq, Repr

namespace Parameter

/-- Neither a default nor null can stand in for the argument. -/
def isRequired (p : Parameter) : Bool := !p.type.nullable && p.default?.isNone

def hasNonNullDefault (p : Parameter) : Bool := p.default?.any (!·.isNull)

end Parameter

end Memberwise

/-!
# Classes, types and locations

A class is identified by its dotted path, whose last segment is its short name. A type is a named
one, possibly an array of it, possibly with null. Locations are handles of the host, which the
library only copies onto diagnostics.
-/

namespace Memberwise

structure ClassName where
  path : String
deriving DecidableEq, Repr, Inhabited

namespace ClassName

def afterLastDot (cs : List Char) : List Char :=
  (cs.reverse.takeWhile (· ≠ '.')).reverse

def short (c : ClassName) : String := String.ofList (afterLastDot c.path.toList)

def nested (c : ClassName) (name : String) : ClassName := ⟨c.path ++ "." ++ name⟩

end ClassName

structure HostType where
  name : String
  nullable : Bool
  array : Bool
deriving DecidableEq, Repr, Inhabited

namespace HostType

def named (name : String) : HostType := ⟨name, false, false⟩

def orNull (name : String) : HostType := ⟨name, true, false⟩

def arrayOf (name : String) : HostType := ⟨name, false, true⟩

def ofClass (c : ClassName) : HostType := named c.path

def boolean : HostType := named "Boolean"

def int : HostType := named "Int"

def string : HostType := named "String"

def anything : HostType := orNull "Any"

def withNull (t : HostType) : HostType := { t with nullable := true }

def text (t : HostType) : String :=
  (if t.array then "Array<" ++ t.name ++ ">" else t.name) ++ (if t.nullable then "?" else "")

end HostType

structure Location where
  handle : UInt64
deriving DecidableEq, Repr

namespace Location

/-- The handle that says that the host gave none. -/
def unknown : Location := ⟨0⟩

instance : Inhabited Location := ⟨unknown⟩

def text (l : Location) : String :=
  if l = unknown then "<unknown>" else "#" ++ toString l.handle.toNat

end Location

end Memberwise

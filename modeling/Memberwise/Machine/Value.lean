import Memberwise.Body.Member
import Memberwise.Machine.Hash

/-!
# Values and faults

Primitives compare by value, arrays and objects by reference. A reference to an object carries the
object's class, which never changes. A fault is why an evaluation could not give a value.
-/

namespace Memberwise

structure ArrayRef where
  address : Nat
deriving DecidableEq, Repr

structure ObjectRef where
  address : Nat
  cls : ClassName
deriving DecidableEq, Repr

def addressHash (address : Nat) : Int32 := Hash.ofId (UInt32.ofNat address)

def hexOfHash (h : Int32) : String := String.ofList (Text.hexDigits h.toInt.toNat)

namespace ArrayRef

def identityHash (r : ArrayRef) : Int32 := addressHash r.address

def text (r : ArrayRef) : String := "Array@" ++ hexOfHash r.identityHash

end ArrayRef

namespace ObjectRef

def identityHash (r : ObjectRef) : Int32 := addressHash r.address

def text (r : ObjectRef) : String := r.cls.short ++ "@" ++ hexOfHash r.identityHash

end ObjectRef

inductive ValueKind
  | null
  | bool
  | int
  | long
  | text
  | array
  | object
deriving DecidableEq, Repr

namespace ValueKind

def name : ValueKind → String
  | null => "null"
  | bool => "boolean"
  | int => "int"
  | long => "long"
  | text => "string"
  | array => "array"
  | object => "object"

end ValueKind

inductive Value
  | null
  | bool (b : Bool)
  | int (i : Int32)
  | long (l : Int64)
  | text (s : String)
  | array (r : ArrayRef)
  | object (r : ObjectRef)
deriving DecidableEq, Repr, Inhabited

inductive Fault
  | classCast (cls : ClassName) (found : ValueKind)
  | missingArgument (param : String)
  | missingReturn (method : String)
  | noSuchMethod (cls : ClassName) (member : Member)
  | nullReceiver (name : String)
  | typeMismatch (expected found : ValueKind)
  | unbound (name : String)
  | uninitialized (cls : ClassName) (property : String)
  | unsupportedDefault (param source : String)
  | wrongArity (method : String) (expected found : Nat)
deriving DecidableEq, Repr

namespace Fault

open Text (inQuotes)

def message : Fault → String
  | classCast cls found => "cannot cast " ++ found.name ++ " to " ++ inQuotes cls.path
  | missingArgument param => param ++ " is required but was not set"
  | missingReturn method => inQuotes method ++ " ended without returning a value"
  | noSuchMethod cls member =>
    "no " ++ inQuotes member.text ++ " installed for " ++ inQuotes cls.path
  | nullReceiver name => "null receiver while accessing " ++ inQuotes name
  | typeMismatch expected found => "expected " ++ expected.name ++ ", found " ++ found.name
  | unbound name => "unbound name " ++ inQuotes name
  | uninitialized cls property =>
    "property " ++ inQuotes property ++ " of " ++ inQuotes cls.path ++ " has not been initialized"
  | unsupportedDefault param source =>
    "default of " ++ inQuotes param ++ " is a host expression and cannot be evaluated: " ++ source
  | wrongArity method expected found =>
    inQuotes method ++ " takes " ++ toString expected ++ " argument(s), got " ++ toString found

end Fault

namespace Value

def kind : Value → ValueKind
  | null => .null
  | bool _ => .bool
  | int _ => .int
  | long _ => .long
  | text _ => .text
  | array _ => .array
  | object _ => .object

def isNull (v : Value) : Bool := v = null

def bool? : Value → Option Bool
  | bool b => some b
  | _ => none

def int? : Value → Option Int32
  | int i => some i
  | _ => none

def text? : Value → Option String
  | text s => some s
  | _ => none

def object? : Value → Option ObjectRef
  | object r => some r
  | _ => none

def expectBool : Value → Except Fault Bool
  | bool b => .ok b
  | v => .error (.typeMismatch .bool v.kind)

def expectInt : Value → Except Fault Int32
  | int i => .ok i
  | v => .error (.typeMismatch .int v.kind)

def expectText : Value → Except Fault String
  | text s => .ok s
  | v => .error (.typeMismatch .text v.kind)

def expectObject : Value → Except Fault ObjectRef
  | object r => .ok r
  | v => .error (.typeMismatch .object v.kind)

def receiver (name : String) : Value → Except Fault ObjectRef
  | object r => .ok r
  | null => .error (.nullReceiver name)
  | v => .error (.typeMismatch .object v.kind)

def shown : Value → String
  | null => "null"
  | bool b => toString b
  | int i => toString i.toInt
  | long l => toString l.toInt ++ "L"
  | text s => Text.quoted s
  | array r => r.text
  | object r => r.text

/-- The value of a default; an expression of the host has none here. -/
def ofDefault (param : String) : Default → Except Fault Value
  | .null => .ok null
  | .literal (.bool b) => .ok (bool b)
  | .literal (.int i) => .ok (int i)
  | .literal (.long l) => .ok (long l)
  | .literal (.text s) => .ok (text s)
  | .source source => .error (.unsupportedDefault param source)

end Value

end Memberwise

/-!
# Data

The written form of metadata: null, truth values, integers, texts, lists and records. A number
that is not written as an integer is kept apart, because no metadata has one. A structure is read
from a record, in which unknown names are passed over, or from a list of its fields in order.
-/

namespace Memberwise

inductive Datum
  | null
  | bool (b : Bool)
  | int (n : Int)
  | fraction
  | text (s : String)
  | list (items : List Datum)
  | record (fields : List (String × Datum))
deriving Repr, Inhabited

namespace Datum

def field? (fields : List (String × Datum)) (name : String) : Option Datum :=
  (fields.find? (·.1 = name)).map (·.2)

/-- The fields of a structure in the given order; a list may leave out the last ones. -/
def fields? (names : List String) : Datum → Option (List (Option Datum))
  | record fields => some (names.map (field? fields))
  | list items =>
    if items.length ≤ names.length then
      some (items.map some ++ List.replicate (names.length - items.length) none)
    else none
  | _ => none

def exactFields? (names : List String) : Datum → Option (List (Option Datum))
  | record fields =>
    if fields.all fun f => names.contains f.1 then fields? names (record fields) else none
  | d => fields? names d

def case? : Datum → Option (String × Option Datum)
  | text s => some (s, none)
  | record [(name, d)] => some (name, some d)
  | _ => none

def bareCase? (d : Datum) : Option String :=
  match d.case? with
  | some (name, none) => some name
  | some (name, some null) => some name
  | _ => none

end Datum

class Written (α : Type) where
  write : α → Datum
  read? : Datum → Option α

export Written (write read?)

namespace Datum

variable {α : Type} [Written α]

def required? : Option Datum → Option α
  | some d => read? d
  | none => none

/-- A field that may be left out; null does not stand for its default. -/
def orElse? (default : α) : Option Datum → Option α
  | some d => read? d
  | none => some default

def optional? : Option Datum → Option (Option α)
  | none => some none
  | some null => some none
  | some d => (read? d).map some

def writeOption : Option α → Datum
  | none => null
  | some a => write a

def fieldIfSome (name : String) (a : Option α) : List (String × Datum) :=
  a.toList.map fun a => (name, write a)

def named? {α : Type} (name : α → String) (all : List α) (d : Datum) : Option α :=
  d.bareCase?.bind fun s => all.find? fun a => name a = s

def readAll? : List Datum → Option (List α)
  | [] => some []
  | d :: ds => do return (← read? d) :: (← readAll? ds)

end Datum

instance : Written Bool where
  write := .bool
  read?
    | .bool b => some b
    | _ => none

instance : Written String where
  write := .text
  read?
    | .text s => some s
    | _ => none

instance : Written Int32 where
  write i := .int i.toInt
  read?
    | .int n =>
      if Int32.minValue.toInt ≤ n ∧ n ≤ Int32.maxValue.toInt then some (Int32.ofInt n) else none
    | _ => none

instance : Written Int64 where
  write l := .int l.toInt
  read?
    | .int n =>
      if Int64.minValue.toInt ≤ n ∧ n ≤ Int64.maxValue.toInt then some (Int64.ofInt n) else none
    | _ => none

instance : Written UInt64 where
  write n := .int n.toNat
  read?
    | .int n => if 0 ≤ n ∧ n.toNat < UInt64.size then some (UInt64.ofNat n.toNat) else none
    | _ => none

instance {α : Type} [Written α] : Written (List α) where
  write as := .list (as.map write)
  read?
    | .list ds => Datum.readAll? ds
    | _ => none

instance {α : Type} [Written α] : Written (Option α) where
  write := Datum.writeOption
  read? d := Datum.optional? (some d)

end Memberwise

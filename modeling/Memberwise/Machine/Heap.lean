import Memberwise.Machine.Value
import Memberwise.Model.BuilderPlan
import Memberwise.Table

/-!
# The heap

Arrays and objects under the numbers 1, 2, ... in the order in which they are made. A property of
an object that is not in its table is unset. The items of an array never change.
-/

namespace Memberwise

inductive Cell
  | array (items : List Value)
  | object (fields : Table String Value)

structure Heap where
  cells : List Cell

namespace Heap

def empty : Heap := ⟨[]⟩

instance : Inhabited Heap := ⟨empty⟩

def next (h : Heap) : Nat := h.cells.length + 1

def cell? (h : Heap) (address : Nat) : Option Cell :=
  if address = 0 then none else h.cells[address - 1]?

def push (h : Heap) (cell : Cell) : Heap := ⟨h.cells ++ [cell]⟩

def newArray (h : Heap) (items : List Value) : ArrayRef × Heap :=
  (⟨h.next⟩, h.push (.array items))

/-- A fresh object; of several values for one field the last counts. -/
def newObject (h : Heap) (cls : ClassName) (fields : List (String × Value)) : ObjectRef × Heap :=
  (⟨h.next, cls⟩, h.push (.object (.ofList fields)))

def fields (h : Heap) (r : ObjectRef) : Table String Value :=
  match h.cell? r.address with
  | some (.object fields) => fields
  | _ => ∅

def items (h : Heap) (r : ArrayRef) : List Value :=
  match h.cell? r.address with
  | some (.array items) => items
  | _ => []

def get? (h : Heap) (r : ObjectRef) (name : String) : Option Value := (h.fields r).get? name

def read (h : Heap) (r : ObjectRef) (name : String) : Except Fault Value :=
  match h.get? r name with
  | some v => .ok v
  | none => .error (.uninitialized r.cls name)

def set (h : Heap) (r : ObjectRef) (name : String) (v : Value) : Heap :=
  match h.cell? r.address with
  | some (.object fields) => ⟨h.cells.set (r.address - 1) (.object (fields.insert name v))⟩
  | _ => h

end Heap

/-- The fields of a builder before the first setter: slots hold null and flags are down. -/
def BuilderPlan.initialFields (plan : BuilderPlan) : List (String × Value) :=
  plan.slots.flatMap fun slot =>
    (slot.valueSlot, .null) :: slot.flagSlot.toList.map fun flag => (flag, .bool false)

def Heap.newBuilder (h : Heap) (plan : BuilderPlan) : ObjectRef × Heap :=
  h.newObject plan.builder plan.initialFields

end Memberwise

import Memberwise.Machine.Basic

/-!
# Evaluation of bodies

Expressions and statements over a heap, which keeps what was done before a fault. Calls of other
bodies go through the argument `call`, so that one body is evaluated by recursion on its
expressions alone; `invoke` ties the knot with a bound on the depth of calls.
-/

namespace Memberwise

inductive Halt
  | fault (f : Fault)
  /-- The bound on the depth of calls was reached. -/
  | tooDeep
deriving DecidableEq, Repr

abbrev Eval := ExceptT Halt (StateM Heap)

namespace Eval

def lift {α : Type} : Except Fault α → Eval α
  | .ok a => pure a
  | .error f => throw (.fault f)

def fail {α : Type} (f : Fault) : Eval α := throw (.fault f)

def read {α : Type} (f : Heap → Except Fault α) : Eval α := do lift (f (← get))

def make {α : Type} (f : Heap → α × Heap) : Eval α := modifyGet f

end Eval

/-- How a body is run on a receiver and arguments. -/
abbrev Call := Body → ObjectRef → List Value → Eval Value

structure Frame where
  this : ObjectRef
  params : Table String Value
  locals : Table String Value

namespace Frame

def enter (sig : Signature) (this : ObjectRef) (args : List Value) : Frame :=
  ⟨this, .ofList ((sig.params.map (·.name)).zip args), ∅⟩

def paramValue (f : Frame) (name : String) : Except Fault Value :=
  (f.params.get? name).elim (.error (.unbound name)) .ok

def localValue (f : Frame) (name : String) : Except Fault Value :=
  (f.locals.get? name).elim (.error (.unbound name)) .ok

def bind (f : Frame) (name : String) (v : Value) : Frame :=
  { f with locals := f.locals.insert name v }

end Frame

namespace Machine

variable (m : Machine) (call : Call)

/-- Equality of values: what the class of the left one installs, or identity. -/
def equalsVia (a b : Value) : Eval Bool :=
  match a with
  | .object this =>
    match m.lookup this.cls .equals with
    | some body => do Eval.lift (← call body this [b]).expectBool
    | none => pure (a = b)
  | _ => pure (a = b)

def hashVia (v : Value) : Eval Int32 :=
  match v with
  | .null => pure 0
  | .bool b => pure (Hash.ofBool b)
  | .int i => pure i
  | .long l => pure (Hash.ofLong l)
  | .text s => pure (Hash.ofText s)
  | .array r => pure r.identityHash
  | .object this =>
    match m.lookup this.cls .hash with
    | some body => do Eval.lift (← call body this []).expectInt
    | none => pure this.identityHash

/-- The hash that never looks into arrays; other values hash as usual. -/
def identityHashVia (v : Value) : Eval Int32 :=
  match v with
  | .array r => pure r.identityHash
  | v => m.hashVia call v

def printVia (v : Value) : Eval String :=
  match v with
  | .null => pure "null"
  | .bool b => pure (toString b)
  | .int i => pure (toString i.toInt)
  | .long l => pure (toString l.toInt)
  | .text s => pure s
  | .array r => pure r.text
  | .object this =>
    match m.lookup this.cls .print with
    | some body => do Eval.lift (← call body this []).expectText
    | none => pure this.text

def superVia (this : ObjectRef) (superclass : Option ClassName) (method : ObjectMethod)
    (args : List Value) : Eval Value :=
  match superclass.bind fun parent => m.lookup parent (.ofObjectMethod method) with
  | some body => call body this args
  | none => do Eval.lift (← modifyGet (m.root this method args))

variable (f : Frame)

mutual

def eval : Expr → Eval Value
  | .null => pure .null
  | .bool b => pure (.bool b)
  | .int i => pure (.int i)
  | .text s => pure (.text s)
  | .this => pure (.object f.this)
  | .param name => Eval.lift (f.paramValue name)
  | .local name => Eval.lift (f.localValue name)
  | .property receiver name _ => do
    let r ← Eval.lift ((← eval receiver).receiver name)
    Eval.read fun h => h.read r name
  | .guardedProperty receiver name _ fallback => do
    let r ← Eval.lift ((← eval receiver).receiver name)
    match (← get).get? r name with
    | some v => pure v
    | none => eval fallback
  | .superCall superclass method args => do
    m.superVia call f.this superclass method (← evalAll args)
  | .not e => do return .bool !(← Eval.lift (← eval e).expectBool)
  | .isNull e => do return .bool (← eval e).isNull
  | .sameRef a b => do return .bool ((← eval a) = (← eval b))
  | .valueEq a b => do return .bool (← m.equalsVia call (← eval a) (← eval b))
  | .isInstance value cls => do return .bool (m.isInstance (← eval value) cls)
  | .cast value cls => do Eval.lift (m.cast (← eval value) cls)
  | .hashOf value .ambient => do return .int (← m.hashVia call (← eval value))
  | .hashOf value .arrayIdentity => do return .int (← m.identityHashVia call (← eval value))
  | .add a b => do
    let x ← Eval.lift (← eval a).expectInt
    let y ← Eval.lift (← eval b).expectInt
    return .int (x + y)
  | .mul a b => do
    let x ← Eval.lift (← eval a).expectInt
    let y ← Eval.lift (← eval b).expectInt
    return .int (x * y)
  | .concat parts => do return .text (← evalTexts parts)
  | .stringify e => do return .text (← m.printVia call (← eval e))
  | .cond c a b => do if ← Eval.lift (← eval c).expectBool then eval a else eval b
  | .new cls args => do
    let fields ← evalFields args
    return .object (← Eval.make fun h => h.newObject cls fields)
  | .defaultOf param value => Eval.lift (Value.ofDefault param value)
termination_by structural e => e

def evalAll : List Expr → Eval (List Value)
  | [] => pure []
  | e :: es => do return (← eval e) :: (← evalAll es)
termination_by structural es => es

def evalTexts : List Expr → Eval String
  | [] => pure ""
  | e :: es => do
    let s ← Eval.lift (← eval e).expectText
    return s ++ (← evalTexts es)
termination_by structural es => es

def evalFields : List (String × Expr) → Eval (List (String × Value))
  | [] => pure []
  | (name, e) :: es => do
    let v ← eval e
    return (name, v) :: (← evalFields es)
termination_by structural es => es

end

theorem eval_this : m.eval call f .this = pure (.object f.this) := by rw [eval]

def Failure.fault : Failure → Fault
  | .missingArgument param => .missingArgument param

def runStmts (method : String) : Frame → List Stmt → Eval Value
  | _, [] => Eval.fail (.missingReturn method)
  | f, .let_ name value :: rest => do
    runStmts method (f.bind name (← m.eval call f value)) rest
  | f, .assign name value :: rest => do
    runStmts method (f.bind name (← m.eval call f value)) rest
  | f, .setField receiver name value :: rest => do
    let target ← m.eval call f receiver
    let v ← m.eval call f value
    let r ← Eval.lift (target.receiver name)
    modify fun h => h.set r name v
    runStmts method f rest
  | f, .ifReturn cond value :: rest => do
    if ← Eval.lift (← m.eval call f cond).expectBool then m.eval call f value
    else runStmts method f rest
  | f, .throwIf cond failure :: rest => do
    if ← Eval.lift (← m.eval call f cond).expectBool then Eval.fail (Failure.fault failure)
    else runStmts method f rest
  | f, .return_ value :: _ => m.eval call f value

def runBody : Call := fun body this args =>
  let sig := body.signature
  if sig.params.length ≠ args.length then
    Eval.fail (.wrongArity sig.name sig.params.length args.length)
  else m.runStmts call sig.name (Frame.enter sig this args) body.stmts

/-- Runs a body in which calls nest less than `depth` deep. -/
def invoke : Nat → Call
  | 0 => fun _ _ _ => throw .tooDeep
  | depth + 1 => m.runBody (invoke depth)

variable (depth : Nat)

def equals (a b : Value) : Eval Bool := m.equalsVia (m.invoke depth) a b

def hash (v : Value) : Eval Int32 := m.hashVia (m.invoke depth) v

def print (v : Value) : Eval String := m.printVia (m.invoke depth) v

def identityHash (v : Value) : Eval Int32 := m.identityHashVia (m.invoke depth) v

def dispatch (receiver : Value) (member : Member) (args : List Value) : Eval Value := do
  let this ← Eval.lift receiver.expectObject
  match m.lookup this.cls member with
  | some body => m.invoke depth body this args
  | none => Eval.fail (.noSuchMethod this.cls member)

def superCall (this : Value) (superclass : Option ClassName) (method : ObjectMethod)
    (args : List Value) : Eval Value := do
  let this ← Eval.lift (this.receiver "super")
  m.superVia (m.invoke depth) this superclass method args

end Machine

def Value.field (v : Value) (name : String) : Eval Value := do
  let r ← Eval.lift (v.receiver name)
  Eval.read fun h => h.read r name

def Value.field? (v : Value) (name : String) : Eval (Option Value) := do
  let r ← Eval.lift (v.receiver name)
  return (← get).get? r name

def Value.setField (v : Value) (name : String) (w : Value) : Eval Unit := do
  let r ← Eval.lift (v.receiver name)
  modify fun h => h.set r name w

end Memberwise

import Memberwise.Proofs.Machine.Outcome
import Memberwise.Synthesis.Object

/-!
# What the bodies of equality and hash do

Both bodies as programs over the values they read, without frames and expressions. Properties are
read on the receiver first and then on the other object; an unset deferred property counts as null.
-/

namespace Memberwise

def Heap.guarded (h : Heap) (r : ObjectRef) (p : Property) : Except Fault Value :=
  match h.get? r p.name with
  | some v => .ok v
  | none => if p.isDeferred then .ok .null else .error (.uninitialized r.cls p.name)

theorem Heap.exists_guarded {h : Heap} {r : ObjectRef} {p : Property}
    (hp : (∃ v, h.get? r p.name = some v) ∨ p.isDeferred = true) :
    ∃ v, h.guarded r p = .ok v := by
  rw [guarded]
  cases hget : h.get? r p.name with
  | some v => exact ⟨v, rfl⟩
  | none =>
    rcases hp with ⟨v, hv⟩ | hdeferred
    · cases hget.symm.trans hv
    · exact ⟨.null, if_pos hdeferred⟩

namespace Machine

variable (m : Machine) (call : Call)

/-- Equality of `this` with `other` as installed at or above `start`. -/
def equalsFrom (start : Option ClassName) (this : ObjectRef) (other : Value) : Eval Bool := do
  Eval.lift (← m.superVia call this start .equals [other]).expectBool

def hashFrom (start : Option ClassName) (this : ObjectRef) : Eval Int32 := do
  Eval.lift (← m.superVia call this start .hash []).expectInt

/-- Compares two objects property by property, up to the first difference. -/
def agreeVia (this that : ObjectRef) : List Participant → Eval Bool
  | [] => pure true
  | p :: ps => do
    let v ← Eval.read (·.guarded this p.property)
    let w ← Eval.read (·.guarded that p.property)
    if ← m.equalsVia call v w then agreeVia this that ps else pure false

def equalsOwn (cls : ClassName) (participants : List Participant) (this : ObjectRef)
    (other : Value) : Eval Bool :=
  if .object this = other then pure true
  else match other with
    | .object that =>
      if m.isSubclass that.cls cls then m.agreeVia call this that participants else pure false
    | _ => pure false

def equalsBody (cls : ClassName) (superclass : Option ClassName) (options : EqualityOptions)
    (participants : List Participant) (this : ObjectRef) (other : Value) : Eval Bool :=
  if options.callSuper then do
    if ← m.equalsFrom call superclass this other then
      m.equalsOwn call cls participants this other
    else pure false
  else m.equalsOwn call cls participants this other

def foldHashVia (this : ObjectRef) : List Participant → Int32 → Eval Int32
  | [], x => pure x
  | p :: ps, x => do
    let v ← Eval.read (·.guarded this p.property)
    let y ← m.hashVia call v
    foldHashVia this ps (x * Synthesis.hashMultiplier + y)

def hashBody (superclass : Option ClassName) (options : EqualityOptions)
    (participants : List Participant) (this : ObjectRef) : Eval Int32 :=
  if options.callSuper then do
    m.foldHashVia call this participants (← m.hashFrom call superclass this)
  else m.foldHashVia call this participants Synthesis.hashSeed

theorem eval_guardedRead {f : Frame} {receiver : Expr} {r : ObjectRef}
    (hr : m.eval call f receiver = pure (.object r)) (p : Property) (useFields : Bool) :
    m.eval call f (Synthesis.guardedRead receiver p useFields) = Eval.read (·.guarded r p) := by
  apply Eval.ext
  intro h
  rw [Eval.on_read, Heap.guarded]
  unfold Synthesis.guardedRead
  cases hp : p.isDeferred with
  | true =>
    simp only [↓reduceIte, eval, hr, pure_bind, Eval.receiver_object, Eval.lift_ok]
    rw [Eval.on_bind]
    cases hv : h.get? r p.name <;> simp [hv]
  | false =>
    simp only [Bool.false_eq_true, ↓reduceIte, Synthesis.read, eval, hr, pure_bind,
      Eval.receiver_object, Eval.lift_ok]
    rw [Eval.on_read]
    cases hv : h.get? r p.name <;> simp [Heap.read, hv]

theorem runStmts_unless (method : String) (f : Frame) (e : Expr) (rest : List Stmt) :
    m.runStmts call method f (.ifReturn (.not e) (.bool false) :: rest) = (do
      if ← Eval.lift (← m.eval call f e).expectBool then m.runStmts call method f rest
      else pure (.bool false)) := by
  simp only [runStmts, eval, bind_assoc, pure_bind, Eval.expectBool_bool, Eval.lift_ok]
  refine bind_congr fun v => bind_congr fun b => ?_
  cases b <;> rfl

structure Casting (f : Frame) (this that : ObjectRef) : Prop where
  this_eq : f.this = this
  that_eq : f.localValue Synthesis.castLocal = .ok (.object that)

theorem runStmts_compare {f : Frame} {this that : ObjectRef} (hf : Casting f this that)
    (method : String) (useFields : Bool) (participants : List Participant) :
    m.runStmts call method f
      (participants.map (fun p => Synthesis.compareStmt useFields p.property) ++
        [.return_ (.bool true)]) = (do
      return .bool (← m.agreeVia call this that participants)) := by
  have hthis : m.eval call f .this = pure (.object this) := by rw [eval_this, hf.this_eq]
  have hthat : m.eval call f (.local Synthesis.castLocal) = pure (.object that) := by
    rw [eval, hf.that_eq, Eval.lift_ok]
  induction participants with
  | nil => rfl
  | cons p ps ih =>
    rw [List.map_cons, List.cons_append, Synthesis.compareStmt, runStmts_unless, agreeVia]
    simp only [eval, m.eval_guardedRead call hthis, m.eval_guardedRead call hthat, bind_assoc,
      pure_bind, Eval.expectBool_bool, Eval.lift_ok]
    refine bind_congr fun v => bind_congr fun w => bind_congr fun b => ?_
    cases b with
    | true => exact ih
    | false => rfl

def ownStmts (cls : ClassName) (useFields : Bool) (participants : List Participant) : List Stmt :=
  .ifReturn (.sameRef .this (.param Synthesis.otherParam)) (.bool true) ::
  .ifReturn (.not (.isInstance (.param Synthesis.otherParam) cls)) (.bool false) ::
  .let_ Synthesis.castLocal (.cast (.param Synthesis.otherParam) cls) ::
  (participants.map (fun p => Synthesis.compareStmt useFields p.property) ++
    [.return_ (.bool true)])

theorem equalsStmts_eq (cls : ClassName) (superclass : Option ClassName)
    (options : EqualityOptions) (participants : List Participant) :
    Synthesis.equalsStmts cls superclass options participants =
      (if options.callSuper then [Synthesis.askSuper superclass] else []) ++
        ownStmts cls options.useFields participants := by
  simp [Synthesis.equalsStmts, ownStmts]

theorem runStmts_own {f : Frame} {other : Value}
    (hother : f.paramValue Synthesis.otherParam = .ok other) (method : String) (cls : ClassName)
    (useFields : Bool) (participants : List Participant) :
    m.runStmts call method f (ownStmts cls useFields participants) = (do
      return .bool (← m.equalsOwn call cls participants f.this other)) := by
  unfold ownStmts equalsOwn
  simp only [runStmts, eval, hother, Eval.lift_ok, pure_bind, Eval.expectBool_bool]
  by_cases hsame : .object f.this = other
  · simp [hsame]
  · cases other with
    | object that =>
      cases hinstance : m.isSubclass that.cls cls with
      | true =>
        have hcast : Casting (f.bind Synthesis.castLocal (.object that)) f.this that := by
          refine ⟨rfl, ?_⟩
          simp [Frame.localValue, Frame.bind, Table.get?_insert_self]
        have hisInstance : m.isInstance (.object that) cls = true := hinstance
        simp only [hsame, decide_false, Bool.false_eq_true, ↓reduceIte, hisInstance, Bool.not_true,
          Machine.cast, Bool.or_true, hinstance, Eval.lift_ok, pure_bind]
        exact m.runStmts_compare call hcast method useFields participants
      | false =>
        have hisInstance : m.isInstance (.object that) cls = false := hinstance
        simp [hsame, hisInstance, hinstance]
    | _ => simp [hsame, isInstance, Value.object?]

theorem runBody_equals (cls : ClassName) (superclass : Option ClassName)
    (options : EqualityOptions) (participants : List Participant) (this : ObjectRef)
    (other : Value) :
    m.runBody call (Synthesis.equals cls superclass options participants).body this [other] = (do
      return .bool (← m.equalsBody call cls superclass options participants this other)) := by
  have hother : (Frame.enter (Synthesis.equals cls superclass options participants).body.signature
      this [other]).paramValue Synthesis.otherParam = .ok other := Frame.paramValue_enter _ _ rfl
  have hown := m.runStmts_own call hother ObjectMethod.equals.name cls options.useFields
    participants
  change m.runStmts call ObjectMethod.equals.name _
    (Synthesis.equalsStmts cls superclass options participants) = _
  rw [equalsStmts_eq, equalsBody, equalsFrom]
  cases options.callSuper with
  | true =>
    rw [if_pos rfl, if_pos rfl, List.singleton_append, Synthesis.askSuper, runStmts_unless]
    simp only [eval, evalAll, hother, Eval.lift_ok, pure_bind, bind_assoc]
    refine bind_congr fun v => bind_congr fun b => ?_
    cases b with
    | true => exact hown
    | false => rfl
  | false => exact hown

/-- An array hashes by identity in any case. -/
theorem identityHashVia_eq (v : Value) : m.identityHashVia call v = m.hashVia call v := by
  cases v <;> rfl

theorem eval_hashOf (f : Frame) (e : Expr) (kind : HashKind) :
    m.eval call f (.hashOf e kind) = (do
      return .int (← m.hashVia call (← m.eval call f e))) := by
  cases kind with
  | ambient => rw [eval]
  | arrayIdentity => simp only [eval, identityHashVia_eq]

theorem runStmts_hashStep {f : Frame} {x : Int32}
    (hx : f.localValue Synthesis.hashLocal = .ok (.int x)) (method : String) (useFields : Bool)
    (p : Property) (rest : List Stmt) :
    m.runStmts call method f (Synthesis.hashStep useFields p :: rest) = (do
      let v ← Eval.read (·.guarded f.this p)
      let y ← m.hashVia call v
      m.runStmts call method
        (f.bind Synthesis.hashLocal (.int (x * Synthesis.hashMultiplier + y))) rest) := by
  have hthis := m.eval_this call f
  rw [Synthesis.hashStep, runStmts, eval, eval, eval_hashOf, m.eval_guardedRead call hthis]
  simp only [eval, hx, Eval.lift_ok, Eval.expectInt_int, pure_bind, bind_assoc]

theorem runStmts_foldHash (method : String) (useFields : Bool) (participants : List Participant) :
    ∀ (f : Frame) (x : Int32), f.localValue Synthesis.hashLocal = .ok (.int x) →
      m.runStmts call method f
        (participants.map (fun p => Synthesis.hashStep useFields p.property) ++
          [.return_ (.local Synthesis.hashLocal)]) = (do
        return .int (← m.foldHashVia call f.this participants x)) := by
  induction participants with
  | nil =>
    intro f x hx
    change m.eval call f (.local Synthesis.hashLocal) = _
    rw [eval, hx]
    rfl
  | cons p ps ih =>
    intro f x hx
    rw [List.map_cons, List.cons_append, m.runStmts_hashStep call hx, foldHashVia]
    simp only [bind_assoc]
    refine bind_congr fun v => bind_congr fun y => ?_
    apply ih
    simp [Frame.localValue, Frame.bind, Table.get?_insert_self]

theorem runStmts_let_hash (method : String) (f : Frame) (useFields : Bool) (p : Participant)
    (ps : List Participant) (start : Expr) :
    m.runStmts call method f
      (.let_ Synthesis.hashLocal start ::
        (p :: ps).map (fun p => Synthesis.hashStep useFields p.property) ++
          [.return_ (.local Synthesis.hashLocal)]) = (do
      let x ← Eval.lift (← m.eval call f start).expectInt
      return .int (← m.foldHashVia call f.this (p :: ps) x)) := by
  change m.eval call f start >>= (fun v => m.runStmts call method (f.bind _ v) _) = _
  refine bind_congr fun v => ?_
  have hlocal : (f.bind Synthesis.hashLocal v).localValue Synthesis.hashLocal = .ok v := by
    simp [Frame.localValue, Frame.bind, Table.get?_insert_self]
  cases v with
  | int x => exact m.runStmts_foldHash call method useFields (p :: ps) _ x hlocal
  | _ =>
    change m.eval call _ (.add (.mul (.local _) _) _) >>= _ = _
    simp only [eval, hlocal, Eval.lift_ok, pure_bind, bind_assoc]
    rfl

theorem runStmts_hashStmts (method : String) (f : Frame) (superclass : Option ClassName)
    (options : EqualityOptions) (participants : List Participant) :
    (do Eval.lift (← m.runStmts call method f
        (Synthesis.hashStmts superclass options participants)).expectInt) = (do
      let x ← Eval.lift (← m.eval call f (Synthesis.hashStart superclass options)).expectInt
      m.foldHashVia call f.this participants x) := by
  cases participants with
  | nil =>
    change (m.eval call f (Synthesis.hashStart superclass options) >>= _) = _
    simp [foldHashVia]
  | cons p ps =>
    rw [Synthesis.hashStmts, if_neg (by simp)]
    rw [List.singleton_append, m.runStmts_let_hash call]
    simp only [bind_assoc, pure_bind, Eval.expectInt_int, Eval.lift_ok, bind_pure]

theorem runBody_hash (cls : ClassName) (superclass : Option ClassName)
    (options : EqualityOptions) (participants : List Participant) (this : ObjectRef) :
    (do Eval.lift (← m.runBody call
        (Synthesis.hash cls superclass options participants).body this []).expectInt) =
      m.hashBody call superclass options participants this := by
  change (do Eval.lift (← m.runStmts call ObjectMethod.hash.name (Frame.enter _ this [])
    (Synthesis.hashStmts superclass options participants)).expectInt) = _
  rw [runStmts_hashStmts, Synthesis.hashStart, hashBody]
  cases options.callSuper with
  | true =>
    simp only [↓reduceIte, eval, evalAll, pure_bind, hashFrom, bind_assoc]
    rfl
  | false =>
    simp only [Bool.false_eq_true, ↓reduceIte, eval, pure_bind, Eval.expectInt_int, Eval.lift_ok]
    rfl

end Machine

end Memberwise

import Memberwise.Proofs.Machine.Outcome
import Memberwise.Synthesis.Building

/-!
# What `build` makes of a builder

Whatever heap it runs on, `build` first reads what the builder holds and touches nothing. Only when
every required slot holds something and every argument can be had does it make its one object.
-/

namespace Memberwise

open Eval

namespace Heap

variable (h : Heap) (this : ObjectRef)

def argument (slot : Slot) : Except Fault Value :=
  let default := Value.ofDefault slot.param.name (slot.param.default?.getD .null)
  match slot.source, slot.flagSlot with
  | .required, _ | .shadow, _ => h.read this slot.valueSlot
  | .shadowOrDefault, _ | .flagOrDefault, none => do
    if (← h.read this slot.valueSlot).isNull then default else h.read this slot.valueSlot
  | .flagOrDefault, some flag => do
    if ← (← h.read this flag).expectBool then h.read this slot.valueSlot else default

/-- The arguments in order, up to the first that cannot be had. -/
def arguments : List Slot → Except Fault (List (String × Value))
  | [] => .ok []
  | slot :: slots => do
    let v ← h.argument this slot
    return (slot.param.name, v) :: (← arguments slots)

def requireAll : List Slot → Except Fault Unit
  | [] => .ok ()
  | slot :: slots => do
    if (← h.read this slot.valueSlot).isNull then .error (.missingArgument slot.param.name)
    else requireAll slots

def construction (plan : BuilderPlan) : Except Fault (List (String × Value)) := do
  h.requireAll this plan.required
  h.arguments this plan.slots

variable {h this} {h' : Heap}

/-- Nothing but the fields of the builder counts. -/
theorem construction_congr (hsame : ∀ name, h.get? this name = h'.get? this name)
    (plan : BuilderPlan) : h.construction this plan = h'.construction this plan := by
  have hread (name : String) : h.read this name = h'.read this name := by
    rw [read, read, hsame]
  have hargument (slot : Slot) : h.argument this slot = h'.argument this slot := by
    simp only [argument, hread]
  have harguments (slots : List Slot) : h.arguments this slots = h'.arguments this slots := by
    induction slots with
    | nil => rfl
    | cons slot slots ih => rw [arguments, arguments, hargument, ih]
  have hrequire (slots : List Slot) : h.requireAll this slots = h'.requireAll this slots := by
    induction slots with
    | nil => rfl
    | cons slot slots ih => rw [requireAll, requireAll, hread, ih]
  rw [construction, construction, hrequire, harguments]

theorem map_fst_of_arguments {slots : List Slot} {fields : List (String × Value)}
    (hfields : h.arguments this slots = .ok fields) :
    fields.map Prod.fst = slots.map (·.param.name) := by
  induction slots generalizing fields with
  | nil =>
    cases hfields
    rfl
  | cons slot slots ih =>
    rw [arguments] at hfields
    cases hv : h.argument this slot with
    | error fault =>
      rw [hv] at hfields
      cases hfields
    | ok v =>
      rw [hv, ok_bind] at hfields
      cases hrest : h.arguments this slots with
      | error fault =>
        rw [hrest] at hfields
        cases hfields
      | ok rest =>
        rw [hrest] at hfields
        cases hfields
        rw [List.map_cons, List.map_cons, ih hrest]

theorem map_fst_of_construction {plan : BuilderPlan} {fields : List (String × Value)}
    (hfields : h.construction this plan = .ok fields) :
    fields.map Prod.fst = plan.slots.map (·.param.name) := by
  rw [construction] at hfields
  cases hrequire : h.requireAll this plan.required with
  | error fault =>
    rw [hrequire] at hfields
    cases hfields
  | ok =>
    rw [hrequire] at hfields
    exact map_fst_of_arguments hfields

end Heap

namespace Machine

variable (m : Machine) (call : Call) (f : Frame)

theorem eval_fieldOfThis (name : String) :
    m.eval call f (.fieldOfThis name) = Eval.read (·.read f.this name) := by
  rw [Expr.fieldOfThis, eval, eval_this, pure_bind, receiver_object, lift_ok, pure_bind]

theorem eval_isNull_fieldOfThis (name : String) :
    m.eval call f (.isNull (.fieldOfThis name)) =
      Eval.read fun h => do return .bool (← h.read f.this name).isNull := by
  rw [eval, eval_fieldOfThis]
  apply Eval.ext
  intro h
  rw [on_read_bind, on_read]
  cases h.read f.this name <;> rfl

variable {f}

theorem eval_cond {c a b : Expr} {test yes no : Heap → Except Fault Value}
    (hc : m.eval call f c = Eval.read test) (ha : m.eval call f a = Eval.read yes)
    (hb : m.eval call f b = Eval.read no) :
    m.eval call f (.cond c a b) =
      Eval.read fun h => (do if ← (← test h).expectBool then yes h else no h) := by
  rw [eval, hc, ha, hb]
  apply Eval.ext
  intro h
  rw [on_read_bind, on_read]
  cases htest : test h with
  | error fault => rfl
  | ok v =>
    cases v with
    | bool t => cases t <;> exact on_read _ h
    | _ => rfl

theorem eval_cond_isNull {name : String} {a b : Expr} {yes no : Heap → Except Fault Value}
    (ha : m.eval call f a = Eval.read yes) (hb : m.eval call f b = Eval.read no) :
    m.eval call f (.cond (.isNull (.fieldOfThis name)) a b) =
      Eval.read fun h => (do if (← h.read f.this name).isNull then yes h else no h) := by
  rw [m.eval_cond call (m.eval_isNull_fieldOfThis call f name) ha hb]
  refine congrArg Eval.read (funext fun h => ?_)
  cases h.read f.this name <;> rfl

variable (f)

theorem eval_argument (slot : Slot) :
    m.eval call f (Synthesis.argument slot) = Eval.read (·.argument f.this slot) := by
  obtain ⟨param, source, valueSlot, valueType, flagSlot⟩ := slot
  have hvalue := m.eval_fieldOfThis call f valueSlot
  have hdefault : m.eval call f (.defaultOf param.name (param.default?.getD .null)) =
      Eval.read fun _ => Value.ofDefault param.name (param.default?.getD .null) := by
    rw [eval]
    rfl
  cases source with
  | required | shadow => exact hvalue
  | shadowOrDefault => exact m.eval_cond_isNull call hdefault hvalue
  | flagOrDefault =>
    cases flagSlot with
    | none => exact m.eval_cond_isNull call hdefault hvalue
    | some flag => exact m.eval_cond call (m.eval_fieldOfThis call f flag) hvalue hdefault

theorem evalFields_arguments (slots : List Slot) :
    m.evalFields call f (slots.map fun slot => (slot.param.name, Synthesis.argument slot)) =
      Eval.read (·.arguments f.this slots) := by
  induction slots with
  | nil => rfl
  | cons slot slots ih =>
    rw [List.map_cons, evalFields, eval_argument, ih]
    apply Eval.ext
    intro h
    rw [on_read_bind, on_read, Heap.arguments]
    cases h.argument f.this slot with
    | error fault => rfl
    | ok v =>
      dsimp only
      rw [on_read_bind]
      cases h.arguments f.this slots <;> rfl

theorem runStmts_requireStmt (method : String) (slot : Slot) (rest : List Stmt) :
    m.runStmts call method f (Synthesis.requireStmt slot :: rest) = (do
      if (← Eval.read (·.read f.this slot.valueSlot)).isNull then
        Eval.fail (.missingArgument slot.param.name)
      else m.runStmts call method f rest) := by
  rw [Synthesis.requireStmt, runStmts, eval, eval_fieldOfThis]
  simp only [bind_assoc, pure_bind, expectBool_bool, lift_ok]
  rfl

theorem runStmts_require (method : String) (slots : List Slot) (rest : List Stmt) :
    m.runStmts call method f (slots.map Synthesis.requireStmt ++ rest) = (do
      Eval.read (·.requireAll f.this slots)
      m.runStmts call method f rest) := by
  induction slots with
  | nil => rfl
  | cons slot slots ih =>
    rw [List.map_cons, List.cons_append, runStmts_requireStmt, ih]
    apply Eval.ext
    intro h
    rw [on_read_bind, on_read_bind, Heap.requireAll]
    cases h.read f.this slot.valueSlot with
    | error fault => rfl
    | ok v =>
      dsimp only [ok_bind]
      cases v.isNull with
      | true => rfl
      | false => exact on_read_bind _ _ h

theorem runBody_build (plan : BuilderPlan) (this : ObjectRef) :
    m.runBody call (Synthesis.build plan).body this [] = (do
      let fields ← Eval.read (·.construction this plan)
      return .object (← Eval.make (·.newObject plan.target fields))) := by
  change m.runStmts call buildMethod (.enter _ this []) (Synthesis.buildStmts plan) = _
  rw [Synthesis.buildStmts, runStmts_require, runStmts, eval, evalFields_arguments,
    Frame.enter_this]
  apply Eval.ext
  intro h
  rw [on_read_bind, on_read_bind, on_read_bind, Heap.construction]
  cases h.requireAll this plan.required with
  | error fault => rfl
  | ok => rw [ok_bind]

end Machine

end Memberwise

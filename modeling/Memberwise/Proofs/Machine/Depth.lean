import Memberwise.Proofs.Machine.Outcome

/-!
# The bound on the depth of calls

A run that does not reach the bound is the same under every larger one. So an evaluation has at most
one outcome, whatever bound it is run with.
-/

namespace Memberwise

namespace Eval

variable {α β : Type}

/-- Wherever `x` does not reach the bound, `y` ends alike. -/
def Below (x y : Eval α) : Prop := ∀ h, (x.on h).1 ≠ .error .tooDeep → y.on h = x.on h

theorem Below.refl (x : Eval α) : Below x x := fun _ _ => rfl

theorem Below.trans {x y z : Eval α} (hxy : Below x y) (hyz : Below y z) : Below x z := by
  intro h hx
  have hy := hxy h hx
  rw [hyz h (by rwa [hy]), hy]

theorem Below.throw (x : Eval α) : Below (throw .tooDeep) x := fun _ hx => absurd rfl hx

theorem Below.bind {x y : Eval α} {f g : α → Eval β} (hxy : Below x y)
    (hfg : ∀ a, Below (f a) (g a)) : Below (x >>= f) (y >>= g) := by
  intro h hx
  have hne : (x.on h).1 ≠ .error .tooDeep := by
    intro hr
    apply hx
    rw [on_bind]
    cases he : x.on h with
    | mk r h₁ =>
      rw [he] at hr
      obtain rfl : r = .error .tooDeep := hr
      rfl
  rw [on_bind] at hx
  rw [on_bind, on_bind, hxy h hne]
  cases he : x.on h with
  | mk r h₁ =>
    rw [he] at hx
    cases r with
    | ok a => exact hfg a h₁ hx
    | error e => rfl

end Eval

open Eval

def CallsBelow (call call' : Call) : Prop :=
  ∀ body this args, Below (call body this args) (call' body this args)

namespace Machine

variable (m : Machine) {call call' : Call}

theorem below_equalsVia (hcall : CallsBelow call call') (a b : Value) :
    Below (m.equalsVia call a b) (m.equalsVia call' a b) := by
  unfold equalsVia
  split
  · split
    · exact (hcall _ _ _).bind fun _ => .refl _
    · exact .refl _
  · exact .refl _

theorem below_hashVia (hcall : CallsBelow call call') (v : Value) :
    Below (m.hashVia call v) (m.hashVia call' v) := by
  unfold hashVia
  split
  case h_7 =>
    split
    · exact (hcall _ _ _).bind fun _ => .refl _
    · exact .refl _
  all_goals exact .refl _

theorem below_identityHashVia (hcall : CallsBelow call call') (v : Value) :
    Below (m.identityHashVia call v) (m.identityHashVia call' v) := by
  unfold identityHashVia
  split
  · exact .refl _
  · exact m.below_hashVia hcall _

theorem below_printVia (hcall : CallsBelow call call') (v : Value) :
    Below (m.printVia call v) (m.printVia call' v) := by
  unfold printVia
  split
  case h_7 =>
    split
    · exact (hcall _ _ _).bind fun _ => .refl _
    · exact .refl _
  all_goals exact .refl _

theorem below_superVia (hcall : CallsBelow call call') (this : ObjectRef)
    (superclass : Option ClassName) (method : ObjectMethod) (args : List Value) :
    Below (m.superVia call this superclass method args)
      (m.superVia call' this superclass method args) := by
  unfold superVia
  split
  · exact hcall _ _ _
  · exact .refl _

variable (f : Frame)

mutual

theorem below_eval (hcall : CallsBelow call call') :
    ∀ e : Expr, Below (m.eval call f e) (m.eval call' f e)
  | .null | .bool _ | .int _ | .text _ | .this | .param _ | .local _ | .defaultOf _ _ => .refl _
  | .property receiver _ _ => by
    simp only [eval]
    exact (below_eval hcall receiver).bind fun _ => .refl _
  | .guardedProperty receiver name _ fallback => by
    simp only [eval]
    refine (below_eval hcall receiver).bind fun v => .bind (.refl _) fun r => ?_
    refine .bind (.refl _) fun h => ?_
    cases h.get? r name with
    | some v => exact .refl _
    | none => exact below_eval hcall fallback
  | .superCall superclass method args => by
    simp only [eval]
    exact (below_evalAll hcall args).bind fun _ => m.below_superVia hcall _ _ _ _
  | .not e | .isNull e | .isInstance e _ | .cast e _ => by
    simp only [eval]
    exact (below_eval hcall e).bind fun _ => .refl _
  | .sameRef a b => by
    simp only [eval]
    exact (below_eval hcall a).bind fun _ => (below_eval hcall b).bind fun _ => .refl _
  | .valueEq a b => by
    simp only [eval]
    exact (below_eval hcall a).bind fun _ => (below_eval hcall b).bind fun _ =>
      (m.below_equalsVia hcall _ _).bind fun _ => .refl _
  | .hashOf e .ambient => by
    simp only [eval]
    exact (below_eval hcall e).bind fun _ => (m.below_hashVia hcall _).bind fun _ => .refl _
  | .hashOf e .arrayIdentity => by
    simp only [eval]
    exact (below_eval hcall e).bind fun _ => (m.below_identityHashVia hcall _).bind fun _ => .refl _
  | .add a b | .mul a b => by
    simp only [eval]
    exact (below_eval hcall a).bind fun _ => .bind (.refl _) fun _ =>
      (below_eval hcall b).bind fun _ => .refl _
  | .concat parts => by
    simp only [eval]
    exact (below_evalTexts hcall parts).bind fun _ => .refl _
  | .stringify e => by
    simp only [eval]
    exact (below_eval hcall e).bind fun _ => (m.below_printVia hcall _).bind fun _ => .refl _
  | .cond c a b => by
    simp only [eval]
    refine (below_eval hcall c).bind fun v => .bind (.refl _) fun t => ?_
    cases t with
    | true => exact below_eval hcall a
    | false => exact below_eval hcall b
  | .new _ args => by
    simp only [eval]
    exact (below_evalFields hcall args).bind fun _ => .refl _

theorem below_evalAll (hcall : CallsBelow call call') :
    ∀ es : List Expr, Below (m.evalAll call f es) (m.evalAll call' f es)
  | [] => .refl _
  | e :: es => by
    simp only [evalAll]
    exact (below_eval hcall e).bind fun _ => (below_evalAll hcall es).bind fun _ => .refl _

theorem below_evalTexts (hcall : CallsBelow call call') :
    ∀ es : List Expr, Below (m.evalTexts call f es) (m.evalTexts call' f es)
  | [] => .refl _
  | e :: es => by
    simp only [evalTexts]
    exact (below_eval hcall e).bind fun _ => .bind (.refl _) fun _ =>
      (below_evalTexts hcall es).bind fun _ => .refl _

theorem below_evalFields (hcall : CallsBelow call call') :
    ∀ es : List (String × Expr), Below (m.evalFields call f es) (m.evalFields call' f es)
  | [] => .refl _
  | (_, e) :: es => by
    simp only [evalFields]
    exact (below_eval hcall e).bind fun _ => (below_evalFields hcall es).bind fun _ => .refl _

end

theorem below_runStmts (hcall : CallsBelow call call') (method : String) (stmts : List Stmt) :
    ∀ f, Below (m.runStmts call method f stmts) (m.runStmts call' method f stmts) := by
  induction stmts with
  | nil => exact fun _ => .refl _
  | cons stmt rest ih =>
    intro f
    cases stmt with
    | let_ name value | assign name value =>
      exact (m.below_eval f hcall value).bind fun _ => ih _
    | setField receiver name value =>
      exact (m.below_eval f hcall receiver).bind fun _ =>
        (m.below_eval f hcall value).bind fun _ =>
          .bind (.refl _) fun _ => .bind (.refl _) fun _ => ih _
    | ifReturn cond value =>
      refine (m.below_eval f hcall cond).bind fun _ => .bind (.refl _) fun t => ?_
      cases t with
      | true => exact m.below_eval f hcall value
      | false => exact ih f
    | throwIf cond failure =>
      refine (m.below_eval f hcall cond).bind fun _ => .bind (.refl _) fun t => ?_
      cases t with
      | true => exact .refl _
      | false => exact ih f
    | return_ value => exact m.below_eval f hcall value

theorem below_runBody (hcall : CallsBelow call call') :
    CallsBelow (m.runBody call) (m.runBody call') := by
  intro body this args
  unfold runBody
  dsimp only
  split
  · exact .refl _
  · exact m.below_runStmts hcall _ _ _

theorem invoke_below_succ (depth : Nat) : CallsBelow (m.invoke depth) (m.invoke (depth + 1)) := by
  induction depth with
  | zero => exact fun _ _ _ => .throw _
  | succ depth ih => exact m.below_runBody ih

theorem invoke_below {depth depth' : Nat} (hle : depth ≤ depth') :
    CallsBelow (m.invoke depth) (m.invoke depth') := by
  induction hle with
  | refl => exact fun _ _ _ => .refl _
  | step _ ih => exact fun body this args => (ih body this args).trans (m.invoke_below_succ _ _ _ _)

end Machine

namespace Eval

variable {α : Type}

/-- Computations to which a larger bound only adds outcomes. -/
def Deepening (op : Nat → Eval α) : Prop :=
  ∀ depth depth', depth ≤ depth' → Below (op depth) (op depth')

theorem Deepening.on_eq {op : Nat → Eval α} (hop : Deepening op) {depth depth' : Nat}
    (hle : depth ≤ depth') {h h' : Heap} {r : Except Fault α}
    (hr : (op depth).on h = (r.mapError .fault, h')) :
    (op depth').on h = (r.mapError .fault, h') := by
  rw [hop depth depth' hle h ?_, hr]
  rw [hr]
  cases r <;> simp

/-- An evaluation has one outcome at most. -/
theorem Ends.unique {op : Nat → Eval α} (hop : Deepening op) {h h₁ h₂ : Heap}
    {r₁ r₂ : Except Fault α} (hr₁ : Ends op h r₁ h₁) (hr₂ : Ends op h r₂ h₂) :
    r₁ = r₂ ∧ h₁ = h₂ := by
  obtain ⟨d₁, hr₁⟩ := hr₁
  obtain ⟨d₂, hr₂⟩ := hr₂
  have hr₁ := hop.on_eq (Nat.le_max_left d₁ d₂) hr₁
  have hr₂ := hop.on_eq (Nat.le_max_right d₁ d₂) hr₂
  rw [hr₁, Prod.mk.injEq] at hr₂
  refine ⟨?_, hr₂.2⟩
  cases r₁ <;> cases r₂ <;> simp_all

end Eval

namespace Machine

variable (m : Machine)

theorem equals_deepening (a b : Value) : Deepening fun depth => m.equals depth a b :=
  fun _ _ hle => m.below_equalsVia (m.invoke_below hle) a b

theorem print_deepening (v : Value) : Deepening fun depth => m.print depth v :=
  fun _ _ hle => m.below_printVia (m.invoke_below hle) v

theorem dispatch_deepening (receiver : Value) (member : Member) (args : List Value) :
    Deepening fun depth => m.dispatch depth receiver member args := by
  intro depth depth' hle
  refine .bind (.refl _) fun this => ?_
  split
  · exact m.invoke_below hle _ _ _
  · exact .refl _

theorem superCall_deepening (this : Value) (superclass : Option ClassName) (method : ObjectMethod)
    (args : List Value) : Deepening fun depth => m.superCall depth this superclass method args :=
  fun _ _ hle => .bind (.refl _) fun this =>
    m.below_superVia (m.invoke_below hle) this superclass method args

end Machine

end Memberwise

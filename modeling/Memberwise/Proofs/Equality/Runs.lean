import Memberwise.Proofs.Machine.Dispatch

/-!
# Runs of equality and hash

One level of calls at a time: what is asked from a class upwards runs the body of the first class
that compares, with a bound smaller by one, or asks the root. None of it changes the heap.
-/

namespace Memberwise

open Eval

namespace Machine

variable (m : Machine)

theorem superVia_of_some {call : Call} {start : Option ClassName} (method : ObjectMethod)
    {body : Body} (hbody : m.lookupFrom start (.ofObjectMethod method) = some body)
    (this : ObjectRef) (args : List Value) :
    m.superVia call this start method args = call body this args := by
  change start.bind (fun parent => m.lookup parent (.ofObjectMethod method)) = some body at hbody
  rw [superVia, hbody]

theorem superVia_of_none {call : Call} {start : Option ClassName} (method : ObjectMethod)
    (hroot : m.root = .identity) (hnone : m.lookupFrom start (.ofObjectMethod method) = none)
    (this : ObjectRef) (args : List Value) :
    m.superVia call this start method args = (do
      Eval.lift (← modifyGet (Root.identity this method args))) := by
  change start.bind (fun parent => m.lookup parent (.ofObjectMethod method)) = none at hnone
  rw [superVia, hnone, hroot]

theorem equalsFrom_of_none {call : Call} {start : Option ClassName} (hroot : m.root = .identity)
    (hnone : m.lookupFrom start .equals = none) (this : ObjectRef) (other : Value) :
    m.equalsFrom call start this other = pure (decide (.object this = other)) := by
  rw [equalsFrom, m.superVia_of_none .equals hroot hnone]
  apply Eval.ext
  intro heap
  have hsame : decide (some other = some (.object this)) = decide (.object this = other) :=
    decide_eq_decide.mpr (by rw [Option.some.injEq, eq_comm])
  change (Except.ok (decide (some other = some (.object this))), heap) = _
  rw [hsame]
  rfl

theorem hashFrom_of_none {call : Call} {start : Option ClassName} (hroot : m.root = .identity)
    (hnone : m.lookupFrom start .hash = none) (this : ObjectRef) :
    m.hashFrom call start this = pure this.identityHash := by
  rw [hashFrom, m.superVia_of_none .hash hroot hnone]
  rfl

theorem equalsFrom_of_lookup {call : Call} {start : Option ClassName} {c : ClassDecl}
    {options : EqualityOptions}
    (hbody : m.lookupFrom start .equals = some (c.equalsMethod options).body) (this : ObjectRef)
    (other : Value) :
    m.equalsFrom (m.runBody call) start this other =
      m.equalsBody call c.name c.superclass options (c.participants .equality) this other := by
  rw [equalsFrom, m.superVia_of_some .equals hbody, ClassDecl.equalsMethod, runBody_equals]
  simp only [bind_assoc, pure_bind, expectBool_bool, lift_ok, bind_pure]

theorem hashFrom_of_lookup {call : Call} {start : Option ClassName} {c : ClassDecl}
    {options : EqualityOptions}
    (hbody : m.lookupFrom start .hash = some (c.hashMethod options).body) (this : ObjectRef) :
    m.hashFrom (m.runBody call) start this =
      m.hashBody call c.superclass options (c.participants .equality) this := by
  rw [hashFrom, m.superVia_of_some .hash hbody, ClassDecl.hashMethod, runBody_hash]

theorem equalsVia_object {call : Call} (hroot : m.root = .identity) (this : ObjectRef)
    (other : Value) :
    m.equalsVia call (.object this) other = m.equalsFrom call (some this.cls) this other := by
  cases hbody : m.lookupFrom (some this.cls) .equals with
  | some body =>
    have hlookup : m.lookup this.cls .equals = some body := hbody
    rw [equalsFrom, m.superVia_of_some .equals hbody]
    simp only [equalsVia, hlookup]
  | none =>
    have hlookup : m.lookup this.cls .equals = none := hbody
    rw [m.equalsFrom_of_none hroot hbody]
    simp only [equalsVia, hlookup]

theorem hashVia_object {call : Call} (hroot : m.root = .identity) (this : ObjectRef) :
    m.hashVia call (.object this) = m.hashFrom call (some this.cls) this := by
  cases hbody : m.lookupFrom (some this.cls) .hash with
  | some body =>
    have hlookup : m.lookup this.cls .hash = some body := hbody
    rw [hashFrom, m.superVia_of_some .hash hbody]
    simp only [hashVia, hlookup]
  | none =>
    have hlookup : m.lookup this.cls .hash = none := hbody
    rw [m.hashFrom_of_none hroot hbody]
    simp only [hashVia, hlookup]

/-- Two different objects are compared property by property if the right one is an instance. -/
theorem equalsOwn_of_ne {call : Call} {this that : ObjectRef} (hne : this ≠ that) {cls : ClassName}
    (hcls : m.isSubclass that.cls cls = true) (participants : List Participant) :
    m.equalsOwn call cls participants this (.object that) =
      m.agreeVia call this that participants := by
  have hne : Value.object this ≠ .object that := fun hsame => hne (Value.object.inj hsame)
  rw [equalsOwn, if_neg hne]
  exact if_pos hcls

theorem quiet_agreeVia {call : Call} (hvia : ∀ a b, Quiet (m.equalsVia call a b))
    (this that : ObjectRef) (participants : List Participant) :
    Quiet (m.agreeVia call this that participants) := by
  induction participants with
  | nil => exact .pure true
  | cons p ps ih =>
    refine .bind (.read _) fun v => .bind (.read _) fun w => .bind (hvia v w) fun b => ?_
    cases b with
    | true => exact ih
    | false => exact .pure false

theorem quiet_equalsOwn {call : Call} (hvia : ∀ a b, Quiet (m.equalsVia call a b))
    (cls : ClassName) (participants : List Participant) (this : ObjectRef) (other : Value) :
    Quiet (m.equalsOwn call cls participants this other) := by
  unfold equalsOwn
  split
  · exact .pure true
  · split
    · split
      · exact m.quiet_agreeVia hvia _ _ _
      · exact .pure false
    · exact .pure false

theorem quiet_foldHashVia {call : Call} (hvia : ∀ v, Quiet (m.hashVia call v)) (this : ObjectRef)
    (participants : List Participant) (x : Int32) :
    Quiet (m.foldHashVia call this participants x) := by
  induction participants generalizing x with
  | nil => exact .pure x
  | cons p ps ih => exact .bind (.read _) fun v => .bind (hvia v) fun y => ih _

section Holding

variable {ss : List ClassSynthesis} (hss : ∀ s ∈ ss, s.FromEngine)

include hss

theorem quiet_equalsFrom (depth : Nat) (start : Option ClassName) (this : ObjectRef)
    (other : Value) :
    Quiet ((holding ss).equalsFrom ((holding ss).invoke depth) start this other) := by
  set m := holding ss with hm
  have hroot : m.root = .identity := IsProgram.root_holding ss
  induction depth generalizing start this other with
  | zero =>
    cases hbody : m.lookupFrom start .equals with
    | none =>
      rw [m.equalsFrom_of_none hroot hbody]
      exact .pure _
    | some body =>
      rw [equalsFrom, m.superVia_of_some .equals hbody]
      exact fun _ => rfl
  | succ depth ih =>
    have hvia (a b : Value) : Quiet (m.equalsVia (m.invoke depth) a b) := by
      cases a with
      | object r =>
        rw [m.equalsVia_object hroot]
        exact ih _ r b
      | _ => exact .pure _
    cases hbody : m.lookupFrom start .equals with
    | none =>
      rw [m.equalsFrom_of_none hroot hbody]
      exact .pure _
    | some body =>
      obtain ⟨c, options, rfl⟩ := equalsMethod_of_lookupFrom hss hbody
      rw [invoke, m.equalsFrom_of_lookup hbody, equalsBody]
      split
      · refine .bind (ih _ _ _) fun b => ?_
        cases b with
        | true => exact m.quiet_equalsOwn hvia _ _ _ _
        | false => exact .pure false
      · exact m.quiet_equalsOwn hvia _ _ _ _

/-- Equality changes nothing, however it ends. -/
theorem quiet_equals (depth : Nat) (a b : Value) : Quiet ((holding ss).equals depth a b) := by
  cases a with
  | object r =>
    rw [equals, equalsVia_object _ (IsProgram.root_holding ss)]
    exact quiet_equalsFrom hss depth _ r b
  | _ => exact .pure _

theorem quiet_hashFrom (depth : Nat) (start : Option ClassName) (this : ObjectRef) :
    Quiet ((holding ss).hashFrom ((holding ss).invoke depth) start this) := by
  set m := holding ss with hm
  have hroot : m.root = .identity := IsProgram.root_holding ss
  induction depth generalizing start this with
  | zero =>
    cases hbody : m.lookupFrom start .hash with
    | none =>
      rw [m.hashFrom_of_none hroot hbody]
      exact .pure _
    | some body =>
      rw [hashFrom, m.superVia_of_some .hash hbody]
      exact fun _ => rfl
  | succ depth ih =>
    have hvia (v : Value) : Quiet (m.hashVia (m.invoke depth) v) := by
      cases v with
      | object r =>
        rw [m.hashVia_object hroot]
        exact ih _ r
      | _ => exact .pure _
    cases hbody : m.lookupFrom start .hash with
    | none =>
      rw [m.hashFrom_of_none hroot hbody]
      exact .pure _
    | some body =>
      obtain ⟨c, options, rfl⟩ := hashMethod_of_lookupFrom hss hbody
      rw [invoke, m.hashFrom_of_lookup hbody, hashBody]
      split
      · exact .bind (ih _ _) fun x => m.quiet_foldHashVia hvia _ _ x
      · exact m.quiet_foldHashVia hvia _ _ _

theorem quiet_hash (depth : Nat) (v : Value) : Quiet ((holding ss).hash depth v) := by
  cases v with
  | object r =>
    rw [hash, hashVia_object _ (IsProgram.root_holding ss)]
    exact quiet_hashFrom hss depth _ r
  | _ => exact .pure _

end Holding

end Machine

end Memberwise

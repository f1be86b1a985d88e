import Memberwise.Proofs.Building.Storage
import Memberwise.Proofs.Machine.Dispatch
import Memberwise.Proofs.Printing.Runs

/-!
# Effects of the members

Equality, hash and printed form leave every heap as it is. A setter writes the slot of its
parameter, and `build` makes one object; both do so at the very end, so that a call that fails has
done nothing. None of this depends on the order in which classes were installed, nor on cycles.
-/

namespace Memberwise

open Eval

namespace Eval

variable {α : Type}

/-- Where `x` fails, the heap is as it was. -/
def Atomic (x : Eval α) : Prop := ∀ h halt h', x.on h = (.error halt, h') → h' = h

end Eval

theorem nodup_storage_ofParameter (p : Parameter) : (Slot.ofParameter p).storage.Nodup := by
  rw [Slot.storage, List.nodup_cons, Option.mem_toList]
  constructor
  · intro hflag
    have hlength := congrArg String.length (flagSlot_eq hflag)
    simp at hlength
  · cases (Slot.ofParameter p).flagSlot <;> simp

theorem exists_of_slot? {c : ClassDecl} {plan : BuilderPlan} {param : String} {slot : Slot}
    (hplan : BuilderPlan.ofClass? c = some plan) (hslot : plan.slot? param = some slot) :
    ∃ p ∈ c.params, p.name = param ∧ slot = .ofParameter p := by
  obtain ⟨b, -, rfl⟩ := Option.map_eq_some_iff.mp hplan
  have hname := List.find?_some hslot
  obtain ⟨p, hp, rfl⟩ := List.mem_map.mp (List.mem_of_find?_eq_some hslot)
  exact ⟨p, hp, of_decide_eq_true hname, rfl⟩

namespace Heap

/-- Of the object, the slot holds the value and its flag is up; nothing else is different. -/
structure SetsSlot (h h' : Heap) (this : ObjectRef) (slot : Slot) (v : Value) : Prop where
  written : h.HasObject this → ∀ e ∈ slot.written v, h'.get? this e.1 = some e.2
  fields : ∀ name, name ∉ slot.storage → h'.get? this name = h.get? this name
  cells : ∀ address, address ≠ this.address → h'.cell? address = h.cell? address
  next : h'.next = h.next

theorem setsSlot_setAll (h : Heap) (this : ObjectRef) {slot : Slot} (hslot : slot.storage.Nodup)
    (v : Value) : h.SetsSlot (h.setAll this (slot.written v)) this slot v := by
  have hkeys : (slot.written v).map Prod.fst = slot.storage := by
    simp [Slot.written, Slot.storage, Function.comp_def]
  by_cases hthis : h.HasObject this
  · refine ⟨fun _ e he => ?_, fun name hname => ?_, fun address hne => ?_, next_setAll _⟩
    · exact hthis.get?_setAll_of_mem (hkeys ▸ hslot) he
    · exact hthis.get?_setAll_of_notMem (hkeys ▸ hname)
    · exact hthis.cell?_setAll_of_ne hne _
  · rw [setAll_of_not_hasObject hthis]
    exact ⟨fun hthis' => absurd hthis' hthis, fun _ _ => rfl, fun _ _ => rfl, rfl⟩

end Heap

namespace Machine

/-- A call that comes to nothing has done nothing; any other runs the body that it has found. -/
theorem dispatch_cases {m : Machine} {depth : Nat} {receiver : Value} {member : Member}
    {args : List Value} {h h' : Heap} {r : Except Halt Value}
    (hr : (m.dispatch depth receiver member args).on h = (r, h')) :
    ((∃ halt, r = .error halt) ∧ h' = h) ∨
      ∃ this body below, receiver = .object this ∧ m.lookup this.cls member = some body ∧
        body.signature.params.length = args.length ∧
        (m.runBody (m.invoke below) body this args).on h = (r, h') := by
  cases receiver with
  | object this =>
    cases hbody : m.lookup this.cls member with
    | none =>
      rw [m.dispatch_of_none depth hbody] at hr
      cases hr
      exact .inl ⟨⟨_, rfl⟩, rfl⟩
    | some body =>
      rw [m.dispatch_of_some depth hbody] at hr
      cases depth with
      | zero =>
        cases hr
        exact .inl ⟨⟨_, rfl⟩, rfl⟩
      | succ below =>
        by_cases harity : body.signature.params.length = args.length
        · exact .inr ⟨this, body, below, rfl, hbody, harity, hr⟩
        · rw [invoke, runBody, if_pos harity] at hr
          cases hr
          exact .inl ⟨⟨_, rfl⟩, rfl⟩
  | _ =>
    cases hr
    exact .inl ⟨⟨_, rfl⟩, rfl⟩

section Holding

variable {ss : List ClassSynthesis} (hss : ∀ s ∈ ss, s.FromEngine) {depth : Nat}
  {receiver : Value} {args : List Value} {h h' : Heap} {r : Except Halt Value}

include hss

theorem dispatch_setter_cases {param : String}
    (hr : ((holding ss).dispatch depth receiver (.setter param) args).on h = (r, h')) :
    ((∃ halt, r = .error halt) ∧ h' = h) ∨
      ∃ this v c plan slot, receiver = .object this ∧ args = [v] ∧ ReadyIn ss .building c ∧
        BuilderPlan.ofClass? c = some plan ∧ plan.slot? param = some slot ∧
        (holding ss).isSubclass this.cls plan.builder = true ∧ r = .ok receiver ∧
        h' = h.setAll this (slot.written v) := by
  rcases dispatch_cases hr with hfailed | ⟨this, body, below, rfl, hbody, harity, hrun⟩
  · exact .inl hfailed
  · obtain ⟨c, hready, x, hx, hbuilder, rfl⟩ := exists_freshMember_of_lookup hss hbody
    obtain ⟨plan, slot, hplan, hslot, rfl⟩ := ClassDecl.exists_of_freshMember_setter hx
    obtain ⟨v, rfl⟩ := List.length_eq_one_iff.mp harity.symm
    rw [runBody_setter] at hrun
    cases hrun
    exact .inr ⟨this, v, c, plan, slot, rfl, rfl, hready, hplan, hslot, hbuilder, rfl, rfl⟩

theorem dispatch_build_cases
    (hr : ((holding ss).dispatch depth receiver .build args).on h = (r, h')) :
    ((∃ halt, r = .error halt) ∧ h' = h) ∨
      ∃ this c plan fields, receiver = .object this ∧ args = [] ∧ ReadyIn ss .building c ∧
        BuilderPlan.ofClass? c = some plan ∧
        (holding ss).isSubclass this.cls plan.builder = true ∧
        h.construction this plan = .ok fields ∧
        r = .ok (.object (h.newObject plan.target fields).1) ∧
        h' = (h.newObject plan.target fields).2 := by
  rcases dispatch_cases hr with hfailed | ⟨this, body, below, rfl, hbody, harity, hrun⟩
  · exact .inl hfailed
  · obtain ⟨c, hready, x, hx, hbuilder, rfl⟩ := exists_freshMember_of_lookup hss hbody
    obtain ⟨plan, hplan, rfl⟩ := ClassDecl.exists_of_freshMember_build hx
    obtain rfl := List.length_eq_zero_iff.mp harity.symm
    rw [runBody_build, on_read_bind] at hrun
    cases hfields : h.construction this plan with
    | error fault =>
      rw [hfields] at hrun
      cases hrun
      exact .inl ⟨⟨_, rfl⟩, rfl⟩
    | ok fields =>
      rw [hfields] at hrun
      cases hrun
      exact .inr ⟨this, c, plan, fields, rfl, rfl, hready, hplan, hbuilder, hfields, rfl, rfl⟩

theorem atomic_setter (depth : Nat) (receiver : Value) (param : String) (args : List Value) :
    Atomic ((holding ss).dispatch depth receiver (.setter param) args) := by
  intro h halt h' hr
  rcases dispatch_setter_cases hss hr with ⟨-, hsame⟩ | ⟨_, _, _, _, _, -, -, -, -, -, -, hok, -⟩
  · exact hsame
  · cases hok

theorem atomic_build (depth : Nat) (receiver : Value) (args : List Value) :
    Atomic ((holding ss).dispatch depth receiver .build args) := by
  intro h halt h' hr
  rcases dispatch_build_cases hss hr with ⟨-, hsame⟩ | ⟨_, _, _, _, -, -, -, -, -, -, hok, -⟩
  · exact hsame
  · cases hok

theorem makes_of_build {result : Value}
    (hr : ((holding ss).dispatch depth receiver .build args).on h = (.ok result, h')) :
    ∃ made, result = .object made ∧ h.Makes h' made := by
  rcases dispatch_build_cases hss hr with ⟨⟨halt, herror⟩, -⟩ |
    ⟨_, _, plan, fields, -, -, -, -, -, -, hok, rfl⟩
  · cases herror
  · cases hok
    exact ⟨_, rfl, h.makes_newObject plan.target fields⟩

end Holding

/-- On a machine filled by engines, equality, hash and printed form change nothing. A setter changes
the slot of its parameter in the builder, `build` makes one object, and where either fails nothing
has changed. -/
theorem effects {ss : List ClassSynthesis} (hss : ∀ s ∈ ss, s.FromEngine) :
    let m := holding ss
    (∀ depth a b, Quiet (m.equals depth a b) ∧ Quiet (m.hash depth a) ∧
      Quiet (m.print depth a)) ∧
    (∀ depth receiver param args,
      Atomic (m.dispatch depth receiver (.setter param) args) ∧
      ∀ h result h', (m.dispatch depth receiver (.setter param) args).on h = (.ok result, h') →
        ∃ this v c plan slot, receiver = .object this ∧ args = [v] ∧ result = receiver ∧
          ReadyIn ss .building c ∧ BuilderPlan.ofClass? c = some plan ∧
          plan.slot? param = some slot ∧ m.isSubclass this.cls plan.builder = true ∧
          h.SetsSlot h' this slot v) ∧
    ∀ depth receiver args,
      Atomic (m.dispatch depth receiver .build args) ∧
      ∀ h result h', (m.dispatch depth receiver .build args).on h = (.ok result, h') →
        ∃ made, result = .object made ∧ h.Makes h' made := by
  intro m
  refine ⟨?_, ?_, ?_⟩
  · exact fun depth a b => ⟨quiet_equals hss depth a b, quiet_hash hss depth a,
      quiet_print hss depth a⟩
  · intro depth receiver param args
    refine ⟨atomic_setter hss depth receiver param args, ?_⟩
    intro h result h' hr
    rcases dispatch_setter_cases hss hr with ⟨⟨halt, herror⟩, -⟩ |
      ⟨this, v, c, plan, slot, rfl, rfl, hready, hplan, hslot, hbuilder, hok, rfl⟩
    · cases herror
    · cases hok
      obtain ⟨p, -, -, rfl⟩ := exists_of_slot? hplan hslot
      exact ⟨this, v, c, plan, _, rfl, rfl, rfl, hready, hplan, hslot, hbuilder,
        h.setsSlot_setAll this (nodup_storage_ofParameter p) v⟩
  · intro depth receiver args
    exact ⟨atomic_build hss depth receiver args, fun h result h' => makes_of_build hss⟩

/-- The owner of a pet may be null on purpose, which the flag records. -/
theorem effects_pet :
    let m := holding [((Engine.new .standard).synthesizeClass Pet.cls).1]
    let builder := (Heap.empty.newBuilder Pet.plan).1
    let h := (Heap.empty.newBuilder Pet.plan).2
    Atomic (m.dispatch 1 (.object builder) .build []) ∧
      ∃ h' slot, (m.dispatch 1 (.object builder) (.setter "owner") [.null]).on h =
          (.ok (.object builder), h') ∧
        slot.param.name = "owner" ∧ h.SetsSlot h' builder slot .null := by
  intro m builder h
  have hss : ∀ s ∈ [((Engine.new .standard).synthesizeClass Pet.cls).1], s.FromEngine := by
    intro s hs
    obtain rfl := List.mem_singleton.mp hs
    exact ⟨_, _, .new .standard, rfl⟩
  obtain ⟨-, hsetter, hbuild⟩ := effects hss
  have hset : (m.dispatch 1 (.object builder) (.setter "owner") [.null]).on h =
      (.ok (.object builder), h.setAll builder [("owner", .null), ("ownerSet", .bool true)]) := rfl
  obtain ⟨this, v, c, plan, slot, hthis, hv, -, -, -, hslot, -, hchange⟩ :=
    (hsetter 1 _ _ _).2 _ _ _ hset
  cases hthis
  cases hv
  have hname := List.find?_some hslot
  exact ⟨(hbuild 1 _ _).1, _, slot, hset, of_decide_eq_true hname, hchange⟩

end Machine

end Memberwise

import Memberwise.Proofs.Building.Construction
import Memberwise.Proofs.Building.History
import Memberwise.Proofs.Machine.Outcome
import Memberwise.Proofs.Machine.Program

/-!
# Members of a builder at work

The setters and `build` of a class are found on the builder that its synthesis names. A setter
writes what its parameter stores; `build` reads the builder and fails, or makes one object.
-/

namespace Memberwise

open Eval

namespace Machine

theorem get?_bodies_installAll_of_mem (m : Machine) {strictness : Strictness} {c : ClassDecl}
    {x : Method} (hx : x ∈ (ClassSynthesis.fresh strictness c).methods) :
    (m.installAll (.fresh strictness c)).bodies.get? (x.owner, x.member) = some x.body := by
  rw [installAll, get?_bodies_foldl_install]
  have hmem : x ∈ (ClassSynthesis.fresh strictness c).methods.reverse := List.mem_reverse.mpr hx
  cases hfind : (ClassSynthesis.fresh strictness c).methods.reverse.find?
      fun y => y.owner = x.owner ∧ y.member = x.member with
  | none =>
    have hnot := List.find?_eq_none.mp hfind x hmem
    simp at hnot
  | some y =>
    have hy := List.mem_reverse.mp (List.mem_of_find?_eq_some hfind)
    have hkey := List.find?_some hfind
    obtain ⟨-, hmember⟩ := of_decide_eq_true hkey
    have hyfresh := ClassSynthesis.exists_of_mem_fresh hy
    rw [hmember, ClassSynthesis.exists_of_mem_fresh hx] at hyfresh
    cases hyfresh
    rfl

end Machine

theorem mem_fresh_of_building {strictness : Strictness} {c : ClassDecl} {member : Member}
    {x : Method} (hready : (Readiness.checkBuilding c strictness).isReady = true)
    (hmember : member ∈ membersOf c .building) (hx : freshMember c member = .ok x) :
    x ∈ (ClassSynthesis.fresh strictness c).methods := by
  refine List.mem_append_right _ ?_
  rw [freshFamily, checkFamily, if_pos hready, List.mem_filterMap]
  exact ⟨member, hmember, by rw [hx]; rfl⟩

theorem build_mem_fresh {strictness : Strictness} {c : ClassDecl} {plan : BuilderPlan}
    (hready : (Readiness.checkBuilding c strictness).isReady = true)
    (hplan : BuilderPlan.ofClass? c = some plan) :
    Synthesis.build plan ∈ (ClassSynthesis.fresh strictness c).methods := by
  have hfresh : freshMember c .build = .ok (Synthesis.build plan) := by
    simp only [freshMember, hplan]
  have hmember : Member.build ∈ membersOf c .building :=
    List.mem_append_right _ (List.mem_singleton.mpr rfl)
  exact mem_fresh_of_building hready hmember hfresh

/-- Building is ready, and the builder stores everything under names of its own. -/
structure Buildable (strictness : Strictness) (c : ClassDecl) (plan : BuilderPlan) : Prop where
  ready : (Readiness.checkBuilding c strictness).isReady = true
  plan_eq : BuilderPlan.ofClass? c = some plan
  storage : plan.storage.Nodup

namespace Buildable

variable {strictness : Strictness} {c : ClassDecl} {plan : BuilderPlan}
  (hc : Buildable strictness c plan)

include hc

theorem exists_plan : ∃ builder, plan = .ofParams c.name builder c.params := by
  have hplan := hc.plan_eq
  rw [BuilderPlan.ofClass?, Option.map_eq_some_iff] at hplan
  obtain ⟨b, -, rfl⟩ := hplan
  exact ⟨b.name, rfl⟩

theorem nodup_storage : (c.params.flatMap fun p => (Slot.ofParameter p).storage).Nodup := by
  have hstorage := hc.storage
  obtain ⟨builder, rfl⟩ := hc.exists_plan
  rwa [BuilderPlan.storage_ofParams] at hstorage

theorem slot?_name {p : Parameter} (hp : p ∈ c.params) :
    plan.slot? p.name = some (.ofParameter p) := by
  obtain ⟨builder, hplan⟩ := hc.exists_plan
  rw [hplan, BuilderPlan.slot?, BuilderPlan.ofParams, List.find?_map, Option.map_eq_some_iff]
  refine ⟨p, ?_, rfl⟩
  cases hfind : c.params.find? _ with
  | none =>
    have hnot := List.find?_eq_none.mp hfind p hp
    exact absurd (decide_eq_true rfl) hnot
  | some q =>
    have hname := List.find?_some hfind
    have hname : q.name = p.name := of_decide_eq_true hname
    rw [eq_of_name_eq hc.nodup_storage (List.mem_of_find?_eq_some hfind) hp hname]

theorem lookup_setter (m : Machine) {p : Parameter} (hp : p ∈ c.params) :
    (m.installAll (.fresh strictness c)).lookup plan.builder (.setter p.name) =
      some (Synthesis.setter plan (.ofParameter p)).body := by
  have hfresh : freshMember c (.setter p.name) = .ok (Synthesis.setter plan (.ofParameter p)) := by
    simp only [freshMember, hc.plan_eq, hc.slot?_name hp]
  have hmember : Member.setter p.name ∈ membersOf c .building :=
    List.mem_append_left _ (List.mem_map_of_mem hp)
  exact Machine.lookup_of_get?_bodies
    (m.get?_bodies_installAll_of_mem (mem_fresh_of_building hc.ready hmember hfresh))

theorem lookup_build (m : Machine) :
    (m.installAll (.fresh strictness c)).lookup plan.builder .build =
      some (Synthesis.build plan).body :=
  Machine.lookup_of_get?_bodies
    (m.get?_bodies_installAll_of_mem (build_mem_fresh hc.ready hc.plan_eq))

end Buildable

namespace Machine

variable (m : Machine) (call : Call)

theorem dispatch_of_none (depth : Nat) {r : ObjectRef} {member : Member}
    (hnone : m.lookup r.cls member = none) (args : List Value) :
    m.dispatch depth (.object r) member args = Eval.fail (.noSuchMethod r.cls member) := by
  simp only [dispatch, expectObject_object, lift_ok, pure_bind, hnone]

theorem dispatch_of_some (depth : Nat) {r : ObjectRef} {member : Member} {body : Body}
    (hbody : m.lookup r.cls member = some body) (args : List Value) :
    m.dispatch depth (.object r) member args = m.invoke depth body r args := by
  simp only [dispatch, expectObject_object, lift_ok, pure_bind, hbody]

theorem dispatch_succ (depth : Nat) {r : ObjectRef} {member : Member} {body : Body}
    (hbody : m.lookup r.cls member = some body) (args : List Value) :
    m.dispatch (depth + 1) (.object r) member args = m.runBody (m.invoke depth) body r args :=
  m.dispatch_of_some (depth + 1) hbody args

theorem on_dispatch_build (depth : Nat) {builder : ObjectRef} {plan : BuilderPlan}
    (hbody : m.lookup builder.cls .build = some (Synthesis.build plan).body) (h : Heap) :
    (m.dispatch (depth + 1) (.object builder) .build []).on h =
      match h.construction builder plan with
      | .ok fields => (.ok (.object (h.newObject plan.target fields).1),
          (h.newObject plan.target fields).2)
      | .error fault => (.error (.fault fault), h) := by
  rw [m.dispatch_succ depth hbody, runBody_build, on_read_bind]
  cases h.construction builder plan <;> rfl

theorem runStmts_setField {f : Frame} {e : Expr} {v : Value} {h : Heap}
    (he : (m.eval call f e).on h = (.ok v, h)) (method name : String) (rest : List Stmt) :
    (m.runStmts call method f (.setField .this name e :: rest)).on h =
      (m.runStmts call method f rest).on (h.set f.this name v) := by
  rw [runStmts, eval, pure_bind, on_bind, he]
  rfl

theorem runStmts_raise (method : String) (f : Frame) (flags : List String) (h : Heap) :
    (m.runStmts call method f
        (flags.map (fun flag => .setField .this flag (.bool true)) ++ [.return_ .this])).on h =
      (.ok (.object f.this), h.setAll f.this (flags.map fun flag => (flag, .bool true))) := by
  induction flags generalizing h with
  | nil => rfl
  | cons flag flags ih =>
    have htrue : (m.eval call f (.bool true)).on h = (.ok (.bool true), h) := by
      rw [eval]
      rfl
    rw [List.map_cons, List.cons_append, m.runStmts_setField call htrue]
    exact ih _

theorem runBody_setter (plan : BuilderPlan) (slot : Slot) (this : ObjectRef) (v : Value)
    (h : Heap) :
    (m.runBody call (Synthesis.setter plan slot).body this [v]).on h =
      (.ok (.object this), h.setAll this (slot.written v)) := by
  have harg : (Frame.enter (Synthesis.setter plan slot).body.signature this
      [v]).paramValue slot.param.name = .ok v := Frame.paramValue_enter _ _ rfl
  refine (m.runStmts_setField call (v := v) ?_ _ _ _).trans (m.runStmts_raise call _ _ _ _)
  rw [eval, harg]
  rfl

end Machine

section Construction

variable {h : Heap} {this : ObjectRef} {params : List Parameter} {calls : List (String × Value)}
  {p : Parameter}

theorem Heap.argument_of_noDefault (hd : p.default?.filter (!·.isNull) = none) :
    h.argument this (.ofParameter p) = h.read this p.name := by
  rcases p with ⟨name, ⟨type, nullable, array⟩, _ | _ | _ | _, location⟩ <;> cases nullable <;>
    first | rfl | cases hd

theorem Heap.argument_of_default {d : Default} (hd : p.default?.filter (!·.isNull) = some d)
    (hnullable : p.type.nullable = false) :
    h.argument this (.ofParameter p) = (do
      if (← h.read this p.name).isNull then Value.ofDefault p.name d
      else h.read this p.name) := by
  rcases p with ⟨name, ⟨type, nullable, array⟩, _ | _ | _ | _, location⟩ <;> cases hnullable <;>
    cases hd <;> rfl

theorem Heap.argument_of_flag {d : Default} (hd : p.default?.filter (!·.isNull) = some d)
    (hnullable : p.type.nullable = true) :
    ∃ flag, (Slot.ofParameter p).flagSlot = some flag ∧
      h.argument this (.ofParameter p) = (do
        if ← (← h.read this flag).expectBool then h.read this p.name
        else Value.ofDefault p.name d) := by
  rcases p with ⟨name, ⟨type, nullable, array⟩, _ | _ | _ | _, location⟩ <;> cases hnullable <;>
    cases hd <;> exact ⟨_, rfl, rfl⟩

theorem Heap.read_of_get? {name : String} {v : Value} (hv : h.get? this name = some v) :
    h.read this name = .ok v := by
  rw [Heap.read, hv]

namespace Heap.Records

variable (hrecords : h.Records this params calls)

include hrecords

theorem read_valueSlot (hp : p ∈ params) : h.read this p.name = .ok (p.held calls) :=
  Heap.read_of_get? (hrecords.stored p hp (p.name, p.held calls) List.mem_cons_self)

theorem read_flag (hp : p ∈ params) {flag : String}
    (hflag : (Slot.ofParameter p).flagSlot = some flag) :
    h.read this flag = .ok (.bool (p.last? calls).isSome) := by
  refine Heap.read_of_get? (hrecords.stored p hp (flag, .bool (p.last? calls).isSome) ?_)
  rw [Parameter.stored, hflag]
  exact List.mem_cons_of_mem _ List.mem_cons_self

/-- A slot is read as the argument that the calls determine. -/
theorem argument_eq (hp : p ∈ params) : h.argument this (.ofParameter p) = p.argument calls := by
  have hvalue := hrecords.read_valueSlot hp
  rw [Parameter.argument]
  cases hd : p.default?.filter (!·.isNull) with
  | none => rw [Heap.argument_of_noDefault hd, hvalue, Parameter.neededDefault?_of_none hd]
  | some d =>
    rw [Parameter.neededDefault?_of_some hd]
    cases hnullable : p.type.nullable with
    | false =>
      rw [Heap.argument_of_default hd hnullable, hvalue, ok_bind]
      cases (p.held calls).isNull <;> rfl
    | true =>
      obtain ⟨flag, hflag, hargument⟩ := Heap.argument_of_flag hd hnullable
      rw [hargument, hrecords.read_flag hp hflag, ok_bind, expectBool_bool, ok_bind, hvalue]
      cases p.last? calls <;> rfl

theorem arguments_eq {ps : List Parameter} (hps : ∀ p ∈ ps, p ∈ params) :
    h.arguments this (ps.map .ofParameter) = Parameter.arguments calls ps := by
  induction ps with
  | nil => rfl
  | cons p ps ih =>
    have hp := hps p List.mem_cons_self
    have ih := ih fun q hq => hps q (List.mem_cons_of_mem _ hq)
    rw [List.map_cons, Heap.arguments, hrecords.argument_eq hp, ih]
    rfl

theorem requireAll_eq {ps : List Parameter} (hps : ∀ p ∈ ps, p ∈ params) :
    h.requireAll this ((ps.map Slot.ofParameter).filter (·.isRequired)) =
      match ps.find? (·.lacks calls) with
      | some p => .error (.missingArgument p.name)
      | none => .ok () := by
  induction ps with
  | nil => rfl
  | cons p ps ih =>
    have hp := hps p List.mem_cons_self
    have ih := ih fun q hq => hps q (List.mem_cons_of_mem _ hq)
    rw [List.map_cons, List.filter_cons, Parameter.isRequired_ofParameter, List.find?_cons,
      Parameter.lacks]
    cases p.isRequired with
    | false => exact ih
    | true =>
      rw [if_pos rfl, Heap.requireAll, Slot.valueSlot_ofParameter, hrecords.read_valueSlot hp]
      rw [ok_bind]
      cases (p.held calls).isNull with
      | true => rfl
      | false => exact ih

theorem construction_eq (target builder : ClassName) :
    h.construction this (.ofParams target builder params) =
      match params.find? (·.lacks calls) with
      | some p => .error (.missingArgument p.name)
      | none => Parameter.arguments calls params := by
  have hrequire : h.requireAll this (BuilderPlan.ofParams target builder params).required = _ :=
    hrecords.requireAll_eq fun _ hp => hp
  have harguments : h.arguments this (BuilderPlan.ofParams target builder params).slots = _ :=
    hrecords.arguments_eq fun _ hp => hp
  rw [Heap.construction, hrequire, harguments]
  cases params.find? (·.lacks calls) <;> rfl

end Heap.Records

end Construction

end Memberwise

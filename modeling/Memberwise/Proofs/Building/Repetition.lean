import Memberwise.Proofs.Building.Effects
import Memberwise.Proofs.Evaluation.Twins

/-!
# Building twice

A builder is none the poorer for having built. Calls of setters may leave it in whatever state; if
it builds then it builds again, and the second object holds what the first one does. Objects are
compared by what takes part in equality, so that the two are equal as long as `build` has assigned
that or it may be missing.
-/

namespace Memberwise

open Eval

/-- No two classes have builders of one name. -/
def BuildersOnce (ss : List ClassSynthesis) : Prop :=
  ((ss.filterMap (·.builder)).map (·.builder)).Nodup

instance (ss : List ClassSynthesis) : Decidable (BuildersOnce ss) :=
  inferInstanceAs (Decidable (List.Nodup _))

theorem ClassSynthesis.FromEngine.exists_plan {s : ClassSynthesis} (hs : s.FromEngine)
    {x : Method} (hx : x ∈ s.methods) (hmember : x.member = .build) :
    ∃ plan, s.builder = some plan ∧ x = Synthesis.build plan := by
  obtain ⟨strictness, c, rfl⟩ := hs.eq_fresh
  have hready := ready_of_mem_fresh hx
  have hfresh := exists_of_mem_fresh hx
  rw [hmember] at hready hfresh
  obtain ⟨plan, hplan, rfl⟩ := ClassDecl.exists_of_freshMember_build hfresh
  exact ⟨plan, (if_pos hready).trans hplan, rfl⟩

namespace Machine

variable {m : Machine} {builder : ObjectRef} {plan : BuilderPlan} {h h' : Heap}

/-- The builder of a class that is ready has the `build` made from its own declaration. -/
theorem lookup_build_of_ready {ss : List ClassSynthesis} (hss : ∀ s ∈ ss, s.FromEngine)
    (honce : BuildersOnce ss) {c : ClassDecl} (hready : ReadyIn ss .building c)
    (hplan : BuilderPlan.ofClass? c = some plan) :
    (holding ss).lookup plan.builder .build = some (Synthesis.build plan).body := by
  obtain ⟨e, he, hready, hs⟩ := hready
  rw [he.synthesizeClass_fst] at hs
  obtain ⟨body, hbody⟩ := exists_get?_bodies_of_mem hs (build_mem_fresh hready hplan)
  obtain ⟨s', hs', x, hx, howner, hmember, rfl⟩ := exists_method_of_get?_bodies hbody
  obtain ⟨plan', hplan', rfl⟩ := (hss s' hs').exists_plan hx hmember
  have hmem : plan ∈ ss.filterMap (·.builder) :=
    List.mem_filterMap.mpr ⟨_, hs, (if_pos hready).trans hplan⟩
  have hmem' : plan' ∈ ss.filterMap (·.builder) := List.mem_filterMap.mpr ⟨s', hs', hplan'⟩
  obtain rfl := List.inj_on_of_nodup_map honce hmem' hmem howner
  exact lookup_of_get?_bodies hbody

theorem ends_build_iff (hbody : m.lookup builder.cls .build = some (Synthesis.build plan).body)
    {result : Value} :
    Ends (m.dispatch · (.object builder) .build []) h (.ok result) h' ↔
      ∃ fields, h.construction builder plan = .ok fields ∧
        result = .object (h.newObject plan.target fields).1 ∧
        h' = (h.newObject plan.target fields).2 := by
  constructor
  · rintro ⟨depth, hr⟩
    have hr := (m.dispatch_deepening (.object builder) .build []).on_eq
      (r := .ok result) (Nat.le_succ depth) hr
    rw [m.on_dispatch_build depth hbody] at hr
    cases hfields : h.construction builder plan with
    | error fault =>
      rw [hfields] at hr
      cases hr
    | ok fields =>
      rw [hfields] at hr
      cases hr
      exact ⟨fields, rfl, rfl, rfl⟩
  · rintro ⟨fields, hfields, rfl, rfl⟩
    refine ⟨1, ?_⟩
    rw [m.on_dispatch_build 0 hbody, hfields]
    rfl

def SetterCall (m : Machine) (builder : ObjectRef) (h h' : Heap) : Prop :=
  ∃ param args r, Ends (m.dispatch · (.object builder) (.setter param) args) h r h'

variable {ss : List ClassSynthesis} (hss : ∀ s ∈ ss, s.FromEngine)

include hss

theorem SetterCall.hasObject (hcall : (holding ss).SetterCall builder h h')
    (hbuilder : h.HasObject builder) : h'.HasObject builder := by
  obtain ⟨param, args, r, depth, hr⟩ := hcall
  rcases dispatch_setter_cases hss hr with
    ⟨-, rfl⟩ | ⟨this, v, -, -, slot, hthis, -, -, -, -, -, -, rfl⟩
  · exact hbuilder
  · obtain rfl := Value.object.inj hthis
    exact hbuilder.setAll _

theorem hasObject_of_setterCalls
    (hcalls : Relation.ReflTransGen ((holding ss).SetterCall builder) h h')
    (hbuilder : h.HasObject builder) : h'.HasObject builder := by
  induction hcalls with
  | refl => exact hbuilder
  | tail _ hcall ih => exact hcall.hasObject hss ih

end Machine

namespace Heap

theorem Makes.construction_eq {h h' : Heap} {made builder : ObjectRef} (hmade : h.Makes h' made)
    (hbuilder : h.HasObject builder) (plan : BuilderPlan) :
    h'.construction builder plan = h.construction builder plan :=
  construction_congr (fun name => by rw [get?, hmade.fields_eq hbuilder, get?]) plan

variable (h : Heap) (cls : ClassName) (fields : List (String × Value))

theorem get?_newObject_newObject (name : String) :
    let made := h.newObject cls fields
    (made.2.newObject cls fields).2.get? made.1 name = (Table.ofList fields).get? name := by
  intro made
  have hagain := made.2.makes_newObject cls fields
  rw [get?, hagain.fields_eq (h.hasObject_newObject cls fields)]
  exact h.get?_newObject cls fields name

theorem twins_newObject :
    let made := h.newObject cls fields
    let again := made.2.newObject cls fields
    again.2.Twins made.1 again.1 := by
  intro made again
  refine ⟨rfl, fun name => ?_⟩
  rw [h.get?_newObject_newObject]
  exact (made.2.get?_newObject cls fields name).symm

end Heap

/-- A builder that has built builds again. What it has built twice in a row are twins, and it is as
before. -/
theorem Machine.builds_again {m : Machine} {builder : ObjectRef} {plan : BuilderPlan} {h h₁ : Heap}
    {result : Value} (hbody : m.lookup builder.cls .build = some (Synthesis.build plan).body)
    (hbuilder : h.HasObject builder)
    (hbuild : Ends (m.dispatch · (.object builder) .build []) h (.ok result) h₁) :
    ∃ first second h₂, result = .object first ∧
      Ends (m.dispatch · (.object builder) .build []) h₁ (.ok (.object second)) h₂ ∧
      first ≠ second ∧ h₁.fields builder = h.fields builder ∧
      h₂.fields builder = h.fields builder ∧ first.cls = plan.target ∧ h₂.Twins first second ∧
      ∀ slot ∈ plan.slots, ∃ v, h₂.get? first slot.param.name = some v := by
  obtain ⟨fields, hfields, rfl, rfl⟩ := (ends_build_iff hbody).mp hbuild
  let made := h.newObject plan.target fields
  let again := made.2.newObject plan.target fields
  have hmade : h.Makes made.2 made.1 := h.makes_newObject plan.target fields
  have hagain : made.2.Makes again.2 again.1 := made.2.makes_newObject plan.target fields
  have hkept : made.2.fields builder = h.fields builder := hmade.fields_eq hbuilder
  refine ⟨made.1, again.1, again.2, rfl, ?_, ?_, hkept, ?_, rfl, h.twins_newObject _ _, ?_⟩
  · refine (ends_build_iff hbody).mpr ⟨fields, ?_, rfl, rfl⟩
    rw [hmade.construction_eq hbuilder, hfields]
  · exact fun heq => hagain.address_ne hmade.object (congrArg ObjectRef.address heq)
  · rw [hagain.fields_eq (hmade.hasObject hbuilder), hkept]
  · intro slot hslot
    have hname : slot.param.name ∈ fields.map Prod.fst := by
      rw [Heap.map_fst_of_construction hfields]
      exact List.mem_map_of_mem hslot
    obtain ⟨v, -, hv⟩ := Table.exists_mem_get?_ofList hname
    exact ⟨v, (h.get?_newObject_newObject plan.target fields _).trans hv⟩

namespace IsProgram

variable {ss : List ClassSynthesis} (hss : IsProgram ss) {c : ClassDecl}

include hss

/-- Setters are called on a new builder, and then it builds: it builds again, the two objects are
equal, and neither hash nor printed form tells them apart. -/
theorem build_twice (honce : BuildersOnce ss) (hclasses : (Machine.holding ss).Acyclic)
    {plan : BuilderPlan} {options : EqualityOptions} (hequality : ReadyIn ss .equality c)
    (hbuilding : ReadyIn ss .building c) (hplan : BuilderPlan.ofClass? c = some plan)
    (hoptions : c.annotations.equality = some options) (hcall : options.callSuper = false)
    (hassigned : ∀ p ∈ c.participants .equality,
      p.property.name ∈ c.params.map (·.name) ∨ p.property.isDeferred = true)
    {h₀ h h₁ : Heap} {result : Value}
    (hcalls : Relation.ReflTransGen ((Machine.holding ss).SetterCall (h₀.newBuilder plan).1)
      (h₀.newBuilder plan).2 h)
    (hbuild : Ends ((Machine.holding ss).dispatch · (.object (h₀.newBuilder plan).1) .build []) h
      (.ok result) h₁) :
    let m := Machine.holding ss
    let builder := (h₀.newBuilder plan).1
    ∃ first second h₂, result = .object first ∧
      Ends (m.dispatch · (.object builder) .build []) h₁ (.ok (.object second)) h₂ ∧
      first ≠ second ∧ h₁.fields builder = h.fields builder ∧
      h₂.fields builder = h.fields builder ∧
      Ends (m.equals · (.object first) (.object second)) h₂ (.ok true) h₂ ∧
      Ends (m.equals · (.object second) (.object first)) h₂ (.ok true) h₂ ∧
      (∀ r h', Ends (m.hash · (.object first)) h₂ r h' ↔
        Ends (m.hash · (.object second)) h₂ r h') ∧
      ∀ d printing, AnswersFrom ss .print (some c.name) d →
        d.annotations.printing = some printing → printing.callSuper = false →
        ∀ r h', Ends (m.print · (.object first)) h₂ r h' ↔
          Ends (m.print · (.object second)) h₂ r h' := by
  intro m builder
  have hbody := Machine.lookup_build_of_ready hss.fromEngine honce hbuilding hplan
  have hbuilder : h.HasObject builder :=
    Machine.hasObject_of_setterCalls hss.fromEngine hcalls (h₀.hasObject_newObject _ _)
  obtain ⟨first, second, h₂, hresult, hagain, hne, hkept, hkept', hcls, htwins, hheld⟩ :=
    Machine.builds_again hbody hbuilder hbuild
  obtain ⟨decl, -, rfl⟩ := Option.map_eq_some_iff.mp hplan
  have hread : ∀ p ∈ c.participants .equality, ∃ v, h₂.guarded first p.property = .ok v := by
    intro p hp
    refine Heap.exists_guarded ((hassigned p hp).imp_left fun hname => ?_)
    obtain ⟨q, hq, hname⟩ := List.mem_map.mp hname
    exact hname ▸ hheld (.ofParameter q) (List.mem_map_of_mem hq)
  obtain ⟨options', hoptions', hc⟩ := hss.exists_comparesFrom_of_ready hequality
  obtain rfl : options' = options := Option.some.inj (hoptions'.symm.trans hoptions)
  have hcls : some first.cls = some c.name := congrArg some hcls
  rw [← hcls] at hc
  obtain ⟨depth, hequals⟩ := hss.exists_equates_of_twins htwins hclasses hc hcall hread
  obtain ⟨depth', hequals'⟩ := hss.exists_equates_of_twins htwins.symm hclasses
    (htwins.cls ▸ hc) hcall fun p hp => htwins.guarded p.property ▸ hread p hp
  refine ⟨first, second, h₂, hresult, hagain, hne, hkept, hkept', ⟨depth, hequals⟩,
    ⟨depth', hequals'⟩, ?_, ?_⟩
  · exact ends_congr (hss.on_hash_of_twins htwins hc.hash hcall)
  · intro d printing hd hprinting hcall
    obtain ⟨printing', hprinting', hbody⟩ := hd.print
    obtain rfl : printing' = printing := Option.some.inj (hprinting'.symm.trans hprinting)
    rw [← hcls] at hbody
    exact ends_congr (hss.on_print_of_twins htwins hbody hcall)

end IsProgram

namespace Kennel

/-- Equality compares a tag as well, which is assigned after the construction. -/
def dog : ClassDecl :=
  let shape := ClassDecl.withBuilder ⟨"Dog"⟩
    [⟨"age", .int, some (.literal (.int 3)), .unknown⟩, ⟨"weight", .int, none, .unknown⟩]
  { shape with
    properties := shape.properties ++ [.deferred "tag" .string],
    annotations :=
      { shape.annotations with
        equality := some ⟨false, false, true, true⟩, printing := some default } }

def plan : BuilderPlan := .ofParams dog.name (dog.name.nested "Builder") dog.params

def program : List ClassSynthesis :=
  [Pet.cls, dog].map fun c => ((Engine.new .standard).synthesizeClass c).1

theorem isProgram : IsProgram program := .of_nodup .standard (by decide)

def builder : ObjectRef := (Heap.empty.newBuilder plan).1

def filled : Heap :=
  (Heap.empty.newBuilder plan).2.setAll builder
    [("age", .int 4), ("weight", .int 7), ("age", .int 5)]

theorem readyIn (family : Family) : ReadyIn program family dog := by
  refine ⟨.new .standard, .new .standard, ?_, List.mem_of_getElem? (i := 1) rfl⟩
  cases family <;> decide

theorem setterCalls :
    Relation.ReflTransGen ((Machine.holding program).SetterCall builder)
      (Heap.empty.newBuilder plan).2 filled := by
  let start := (Heap.empty.newBuilder plan).2
  let older := start.set builder "age" (.int 4)
  let weighed := older.set builder "weight" (.int 7)
  have hage : (Machine.holding program).SetterCall builder start older :=
    ⟨"age", [.int 4], .ok (.object builder), 1, rfl⟩
  have hweight : (Machine.holding program).SetterCall builder older weighed :=
    ⟨"weight", [.int 7], .ok (.object builder), 1, rfl⟩
  have hage' : (Machine.holding program).SetterCall builder weighed filled :=
    ⟨"age", [.int 5], .ok (.object builder), 1, rfl⟩
  exact .tail (.tail (.single hage) hweight) hage'

theorem answersFrom : AnswersFrom program .print (some dog.name) dog where
  ready := readyIn .printing
  above := ⟨dog.name, rfl, Machine.isSubclass_refl _ _⟩
  parent := rfl
  made := ⟨dog.printMethod default, rfl, rfl⟩

end Kennel

theorem IsProgram.build_twice_kennel :
    let m := Machine.holding Kennel.program
    Relation.ReflTransGen (m.SetterCall Kennel.builder) (Heap.empty.newBuilder Kennel.plan).2
        Kennel.filled ∧
      ∃ first second h₁ h₂,
        Ends (m.dispatch · (.object Kennel.builder) .build []) Kennel.filled
          (.ok (.object first)) h₁ ∧
        Ends (m.dispatch · (.object Kennel.builder) .build []) h₁ (.ok (.object second)) h₂ ∧
        first ≠ second ∧ Ends (m.equals · (.object first) (.object second)) h₂ (.ok true) h₂ ∧
        (∀ r h', Ends (m.hash · (.object first)) h₂ r h' ↔
          Ends (m.hash · (.object second)) h₂ r h') ∧
        ∀ r h', Ends (m.print · (.object first)) h₂ r h' ↔
          Ends (m.print · (.object second)) h₂ r h' := by
  intro m
  have hbuild : Ends (m.dispatch · (.object Kennel.builder) .build []) Kennel.filled
      (.ok (.object ⟨2, Kennel.dog.name⟩))
      (Kennel.filled.newObject Kennel.dog.name [("age", .int 5), ("weight", .int 7)]).2 := ⟨1, rfl⟩
  have hplan : BuilderPlan.ofClass? Kennel.dog = some Kennel.plan := by decide
  have hoptions : Kennel.dog.annotations.equality = some ⟨false, false, true, true⟩ := by decide
  obtain ⟨first, second, h₂, hfirst, hsecond, hne, -, -, hequals, -, hhash, hprint⟩ :=
    Kennel.isProgram.build_twice (by decide) (Machine.acyclic_of_rank (fun _ => 0) (by decide))
      (Kennel.readyIn .equality) (Kennel.readyIn .building) hplan hoptions rfl (by decide)
      Kennel.setterCalls hbuild
  exact ⟨Kennel.setterCalls, first, second, _, h₂, hfirst ▸ hbuild, hsecond, hne, hequals, hhash,
    hprint Kennel.dog default Kennel.answersFrom rfl rfl⟩

end Memberwise

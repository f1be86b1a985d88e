import Memberwise.Machine.Eval
import Memberwise.Proofs.Engine.History
import Memberwise.Proofs.Machine.Outcome
import Memberwise.Proofs.Readiness.Relocation

/-!
# Locations in synthesis and at run time

What is synthesized for a class, installed on a machine and built there has no locations in it. So
engines and machines that are given the same classes elsewhere do the same, and only what is
reported tells where the classes stood.
-/

namespace Memberwise

variable (f : Location → Location)

def Slot.relocate (slot : Slot) : Slot := { slot with param := slot.param.relocate f }

def BuilderPlan.relocate (plan : BuilderPlan) : BuilderPlan :=
  { plan with slots := plan.slots.map (Slot.relocate f) }

def Refusal.relocate : Refusal → Refusal
  | rejected cls family ds => rejected cls family (ds.relocate f)
  | skipped cls family ds => skipped cls family (ds.relocate f)
  | notRequested cls family => notRequested cls family
  | unknownMember cls member => unknownMember cls member

def ClassSynthesis.relocate (s : ClassSynthesis) : ClassSynthesis :=
  { s with
    builder := s.builder.map (BuilderPlan.relocate f),
    diagnostics := s.diagnostics.relocate f }

namespace Synthesis

variable (cls : ClassName) (superclass : Option ClassName) (ps : List Participant)

theorem equals_relocate (options : EqualityOptions) :
    equals cls superclass options (ps.map (Participant.relocate f)) =
      equals cls superclass options ps := by
  simp only [equals, equalsStmts, List.map_map]
  rfl

theorem hash_relocate (options : EqualityOptions) :
    hash cls superclass options (ps.map (Participant.relocate f)) =
      hash cls superclass options ps := by
  simp only [hash, hashStmts, List.map_map, List.isEmpty_map]
  rfl

theorem print_relocate (options : PrintingOptions) :
    print cls superclass options (ps.map (Participant.relocate f)) =
      print cls superclass options ps := by
  simp only [print, segments, List.map_map]
  rfl

theorem build_relocate (plan : BuilderPlan) : build (plan.relocate f) = build plan := by
  have hrequired : (plan.relocate f).required.map requireStmt = plan.required.map requireStmt := by
    rw [BuilderPlan.required, BuilderPlan.relocate, List.filter_map, List.map_map]
    rfl
  unfold build buildStmts
  rw [hrequired, BuilderPlan.relocate, List.map_map]
  rfl

end Synthesis

namespace BuilderPlan

theorem ofClass?_relocate (c : ClassDecl) :
    ofClass? (c.relocate f) = (ofClass? c).map (relocate f) := by
  have hbuilder : (c.relocate f).builder = c.builder.map (BuilderDecl.relocate f) := rfl
  rw [ofClass?, ofClass?, hbuilder, c.params_relocate]
  simp only [Option.map_map, Function.comp_def, ofParams, relocate, List.map_map]
  rfl

theorem slot?_relocate (plan : BuilderPlan) (param : String) :
    (plan.relocate f).slot? param = (plan.slot? param).map (Slot.relocate f) :=
  List.find?_map

theorem initialFields_relocate (plan : BuilderPlan) :
    (plan.relocate f).initialFields = plan.initialFields :=
  List.flatMap_map ..

end BuilderPlan

variable (c : ClassDecl) (strictness : Strictness)

theorem resolution?_relocate (family : Family) :
    (c.relocate f).resolution? family = (c.resolution? family).map (Resolution.relocate f) := by
  rw [ClassDecl.resolution?, ClassDecl.resolution?, c.ofClass?_relocate]
  cases InclusionPolicy.ofClass? c family with
  | none => rfl
  | some policy => exact congrArg some (Resolution.compute_relocate f policy c.properties)

theorem equalityMethod_relocate (options : EqualityOptions) (r : Resolution) (member : Member) :
    equalityMethod (c.relocate f) options (r.relocate f) member =
      equalityMethod c options r member := by
  unfold equalityMethod
  split
  · exact Synthesis.equals_relocate f c.name c.superclass r.participants options
  · exact Synthesis.hash_relocate f c.name c.superclass r.participants options

theorem freshMember_relocate (member : Member) :
    freshMember (c.relocate f) member = freshMember c member := by
  have hname : (c.relocate f).name = c.name := rfl
  have hsuperclass : (c.relocate f).superclass = c.superclass := rfl
  have hannotations : (c.relocate f).annotations = c.annotations := rfl
  cases member with
  | equals | hash =>
    simp only [freshMember, resolution?_relocate, hname, hannotations]
    cases c.annotations.equality <;> cases c.resolution? .equality <;>
      simp [equalityMethod_relocate]
  | print =>
    simp only [freshMember, resolution?_relocate, hname, hsuperclass, hannotations]
    cases c.annotations.printing <;> cases c.resolution? .printing <;>
      simp [Resolution.relocate, Synthesis.print_relocate]
  | setter param =>
    simp only [freshMember, BuilderPlan.ofClass?_relocate, hname]
    cases BuilderPlan.ofClass? c with
    | none => rfl
    | some plan =>
      simp only [Option.map_some, BuilderPlan.slot?_relocate]
      cases plan.slot? param <;> rfl
  | build =>
    simp only [freshMember, BuilderPlan.ofClass?_relocate, hname]
    cases BuilderPlan.ofClass? c with
    | none => rfl
    | some plan => exact congrArg Except.ok (Synthesis.build_relocate f plan)

theorem membersOf_relocate (family : Family) :
    membersOf (c.relocate f) family = membersOf c family := by
  cases family with
  | equality | printing => rfl
  | building =>
    simp only [membersOf, c.params_relocate, List.map_map]
    rfl

theorem Report.refusal?_relocate (r : Report) (cls : ClassName) :
    (r.relocate f).refusal? cls = (r.refusal? cls).map (Refusal.relocate f) := by
  unfold Report.refusal? Report.relocate
  cases r.verdict <;> rfl

theorem mapError_relocate_freshMember (member : Member) :
    (freshMember c member).mapError (Refusal.relocate f) = freshMember c member := by
  unfold freshMember
  cases member with
  | equals | hash => cases c.annotations.equality <;> cases c.resolution? .equality <;> rfl
  | print => cases c.annotations.printing <;> cases c.resolution? .printing <;> rfl
  | setter param =>
    cases BuilderPlan.ofClass? c with
    | none => rfl
    | some plan =>
      dsimp only
      cases plan.slot? param <;> rfl
  | build => cases BuilderPlan.ofClass? c <;> rfl

theorem freshAnswer_relocate (member : Member) :
    freshAnswer strictness (c.relocate f) member =
      (freshAnswer strictness c member).mapError (Refusal.relocate f) := by
  have hname : (c.relocate f).name = c.name := rfl
  unfold freshAnswer
  rw [checkFamily_relocate, hname, Report.refusal?_relocate, freshMember_relocate]
  cases (checkFamily c strictness member.family).refusal? c.name with
  | some refusal => rfl
  | none => exact (mapError_relocate_freshMember f c member).symm

theorem freshFamily_relocate (family : Family) :
    freshFamily strictness (c.relocate f) family = freshFamily strictness c family := by
  unfold freshFamily
  rw [checkFamily_relocate, membersOf_relocate]
  simp only [freshMember_relocate]
  rfl

theorem fresh_relocate :
    ClassSynthesis.fresh strictness (c.relocate f) =
      (ClassSynthesis.fresh strictness c).relocate f := by
  unfold ClassSynthesis.fresh ClassSynthesis.relocate
  simp only [freshFamily_relocate, checkFamily_relocate, checkClass_relocate,
    BuilderPlan.ofClass?_relocate, apply_ite (Option.map (BuilderPlan.relocate f)),
    Option.map_none]
  rfl

namespace Engine

variable {e e' : Engine}

theorem names_relocate (hsettings : e'.settings = e.settings) :
    e'.names (c.relocate f) = e.names c := by
  have hmembers : membersOf (c.relocate f) = membersOf c := funext (membersOf_relocate f c)
  simp only [names, Engine.check, strictness, hsettings, checkFamily_relocate, hmembers]
  rfl

theorem builderPlan_relocate (hsettings : e'.settings = e.settings) :
    (e'.builderPlan (c.relocate f)).1 =
      ((e.builderPlan c).1.map (BuilderPlan.relocate f)).mapError (Refusal.relocate f) := by
  have hname : (c.relocate f).name = c.name := rfl
  unfold builderPlan Engine.check strictness
  dsimp only
  rw [hsettings, checkFamily_relocate, hname, Report.refusal?_relocate,
    BuilderPlan.ofClass?_relocate]
  cases (checkFamily c e.settings.strictness .building).refusal? c.name with
  | some refusal => rfl
  | none => cases BuilderPlan.ofClass? c <;> rfl

end Engine

structure Session where
  engine : Engine
  machine : Machine
  heap : Heap

namespace Session

def start (settings : Settings) (root : Root) : Session := ⟨.new settings, .new root, .empty⟩

inductive Question
  | equals (a b : Value)
  | hash (v : Value)
  | identityHash (v : Value)
  | print (v : Value)
  | call (receiver : Value) (member : Member) (args : List Value)
  | superCall (this : Value) (superclass : Option ClassName) (method : ObjectMethod)
    (args : List Value)
  | isInstance (v : Value) (cls : ClassName)
  | isSubclass (cls target : ClassName)
  | cast (v : Value) (cls : ClassName)
  | field (v : Value) (name : String)
  | field? (v : Value) (name : String)
  | setField (v : Value) (name : String) (w : Value)
  | object (cls : ClassName) (fields : List (String × Value))
  | array (items : List Value)

/-- None where there is nothing to answer, or where a field that may be unset is. -/
def Question.answer (m : Machine) (depth : Nat) : Question → Eval (Option Value)
  | equals a b => do return some (.bool (← m.equals depth a b))
  | hash v => do return some (.int (← m.hash depth v))
  | identityHash v => do return some (.int (← m.identityHash depth v))
  | print v => do return some (.text (← m.print depth v))
  | call receiver member args => do return some (← m.dispatch depth receiver member args)
  | superCall this superclass method args => do
    return some (← m.superCall depth this superclass method args)
  | isInstance v cls => return some (.bool (m.isInstance v cls))
  | isSubclass cls target => return some (.bool (m.isSubclass cls target))
  | cast v cls => do return some (← Eval.lift (m.cast v cls))
  | field v name => do return some (← v.field name)
  | field? v name => v.field? name
  | setField v name w => do
    v.setField name w
    return none
  | object cls fields => do return some (.object (← Eval.make fun h => h.newObject cls fields))
  | array items => do return some (.array (← Eval.make fun h => h.newArray items))

/-- What a host does: it has classes synthesized, installs what it gets, makes builders and asks. -/
inductive Act
  | perform (op : Engine.Operation)
  | install (member : Member) (c : ClassDecl)
  | installAll (c : ClassDecl)
  | register (cls : ClassName) (superclass : Option ClassName)
  | makeBuilder (c : ClassDecl)
  | ask (question : Question)

/-- The answer at run time, if the act has one, and the session after it. A class that is refused
changes nothing on the machine or its heap. -/
def act (s : Session) (depth : Nat) : Act → Option (Except Halt (Option Value)) × Session
  | .perform op => (none, { s with engine := s.engine.perform op })
  | .install member c =>
    let (answer, engine, _) := s.engine.synthesize member c
    (none, { s with engine, machine := answer.toOption.elim s.machine s.machine.install })
  | .installAll c =>
    let (made, engine, _) := s.engine.synthesizeClass c
    (none, { s with engine, machine := s.machine.installAll made })
  | .register cls superclass => (none, { s with machine := s.machine.register cls superclass })
  | .makeBuilder c =>
    match (s.engine.builderPlan c).1 with
    | .error _ => (none, s)
    | .ok plan =>
      let (builder, heap) := s.heap.newBuilder plan
      (some (.ok (some (.object builder))), { s with heap })
  | .ask question =>
    let (answer, heap) := (question.answer s.machine depth).on s.heap
    (some answer, { s with heap })

def answers (s : Session) (depth : Nat) : List Act → List (Option (Except Halt (Option Value)))
  | [] => []
  | a :: acts => (s.act depth a).1 :: (s.act depth a).2.answers depth acts

end Session

def Engine.Operation.relocate : Operation → Operation
  | synthesize member c => synthesize member (c.relocate f)
  | synthesizeClass c => synthesizeClass (c.relocate f)
  | names c => names (c.relocate f)
  | validate c => validate (c.relocate f)
  | builderPlan c => builderPlan (c.relocate f)
  | clear => clear

def Session.Act.relocate : Act → Act
  | perform op => perform (op.relocate f)
  | install member c => install member (c.relocate f)
  | installAll c => installAll (c.relocate f)
  | makeBuilder c => makeBuilder (c.relocate f)
  | register cls superclass => register cls superclass
  | ask question => ask question

namespace Session

structure Agree (s s' : Session) : Prop where
  reachable : s.engine.Reachable
  reachable' : s'.engine.Reachable
  settings : s'.engine.settings = s.engine.settings
  machine : s'.machine = s.machine
  heap : s'.heap = s.heap

variable {s s' : Session}

theorem Agree.perform (h : Agree s s') (op op' : Engine.Operation) {machine : Machine} :
    Agree ⟨s.engine.perform op, machine, s.heap⟩ ⟨s'.engine.perform op', machine, s'.heap⟩ where
  reachable := h.reachable.perform op
  reachable' := h.reachable'.perform op'
  settings := by rw [Engine.settings_perform, Engine.settings_perform, h.settings]
  machine := rfl
  heap := h.heap

/-- No act tells where its class is. -/
theorem Agree.act (h : Agree s s') (depth : Nat) (a : Act) :
    (s'.act depth (a.relocate f)).1 = (s.act depth a).1 ∧
      Agree (s.act depth a).2 (s'.act depth (a.relocate f)).2 := by
  have hstrictness : s'.engine.strictness = s.engine.strictness := by
    rw [Engine.strictness, h.settings, Engine.strictness]
  obtain ⟨engine, machine, heap⟩ := s
  obtain ⟨engine', machine', heap'⟩ := s'
  obtain rfl : machine' = machine := h.machine
  obtain rfl : heap' = heap := h.heap
  cases a with
  | perform op => exact ⟨rfl, h.perform op _⟩
  | install member c =>
    refine ⟨rfl, ?_⟩
    have hanswer : (engine'.synthesize member (c.relocate f)).1.toOption =
        (engine.synthesize member c).1.toOption := by
      rw [h.reachable'.synthesize_fst, h.reachable.synthesize_fst, hstrictness,
        freshAnswer_relocate]
      cases freshAnswer _ c member <;> rfl
    simp only [Session.act, Act.relocate, hanswer]
    exact h.perform (.synthesize member c) (.synthesize member (c.relocate f))
  | installAll c =>
    refine ⟨rfl, ?_⟩
    have hmade (m : Machine) : m.installAll (engine'.synthesizeClass (c.relocate f)).1 =
        m.installAll (engine.synthesizeClass c).1 := by
      rw [h.reachable'.synthesizeClass_fst, h.reachable.synthesizeClass_fst, hstrictness,
        fresh_relocate]
      rfl
    simp only [Session.act, Act.relocate, hmade]
    exact h.perform (.synthesizeClass c) (.synthesizeClass (c.relocate f))
  | register cls superclass =>
    exact ⟨rfl, h.reachable, h.reachable', h.settings, rfl, rfl⟩
  | makeBuilder c =>
    simp only [Session.act, Act.relocate, Engine.builderPlan_relocate f c h.settings]
    cases (engine.builderPlan c).1 with
    | error refusal => exact ⟨rfl, h⟩
    | ok plan =>
      have hbuilder : heap'.newBuilder (plan.relocate f) = heap'.newBuilder plan :=
        congrArg (heap'.newObject plan.builder) (plan.initialFields_relocate f)
      simp only [Except.map, Eval.mapError_ok, hbuilder]
      exact ⟨trivial, h.reachable, h.reachable', h.settings, rfl, rfl⟩
  | ask question => exact ⟨rfl, h.reachable, h.reachable', h.settings, rfl, rfl⟩

theorem Agree.answers (h : Agree s s') (depth : Nat) (acts : List Act) :
    s'.answers depth (acts.map (Act.relocate f)) = s.answers depth acts := by
  induction acts generalizing s s' with
  | nil => rfl
  | cons a acts ih =>
    obtain ⟨hanswer, hagree⟩ := h.act f depth a
    rw [List.map_cons, Session.answers, Session.answers, hanswer, ih hagree]

theorem agree_start (settings : Settings) (root : Root) :
    Agree (start settings root) (start settings root) :=
  ⟨.new settings, .new settings, rfl, rfl, rfl⟩

end Session

/-- Locations are opaque: any map of them goes through to what is reported on a class, and nothing
else that an engine gives or that happens at run time depends on them. -/
theorem Engine.after_relocate (settings : Settings) (history history' : List Operation) :
    let e := after settings history
    let e' := after settings history'
    (∀ strictness family,
      checkFamily (c.relocate f) strictness family =
        (checkFamily c strictness family).relocate f) ∧
    e'.names (c.relocate f) = e.names c ∧
    (∀ member, (e'.synthesize member (c.relocate f)).1 =
      (e.synthesize member c).1.mapError (Refusal.relocate f)) ∧
    (e'.synthesizeClass (c.relocate f)).1 = (e.synthesizeClass c).1.relocate f ∧
    (e'.builderPlan (c.relocate f)).1 =
      ((e.builderPlan c).1.map (BuilderPlan.relocate f)).mapError (Refusal.relocate f) ∧
    ∀ root depth acts, (Session.start settings root).answers depth (acts.map (.relocate f)) =
      (Session.start settings root).answers depth acts := by
  intro e e'
  have he : e.Reachable := reachable_after settings history
  have he' : e'.Reachable := reachable_after settings history'
  have hsettings : e'.settings = e.settings :=
    (settings_after settings history').trans (settings_after settings history).symm
  have hstrictness : e'.strictness = e.strictness := by
    rw [Engine.strictness, hsettings, Engine.strictness]
  refine ⟨fun _ _ => checkFamily_relocate f c .., names_relocate f c hsettings, ?_, ?_,
    builderPlan_relocate f c hsettings, ?_⟩
  · intro member
    rw [he'.synthesize_fst, he.synthesize_fst, hstrictness, freshAnswer_relocate]
  · rw [he'.synthesizeClass_fst, he.synthesizeClass_fst, hstrictness, fresh_relocate]
  · intro root depth acts
    exact (Session.agree_start settings root).answers f depth acts

end Memberwise

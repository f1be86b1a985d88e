import Memberwise.Proofs.Equality.Dispatch

/-!
# Which class answers for a member

Whatever body of an object method is found from a class upwards was made for a class of the program
that was ready for the family of the method. Its participants are the properties that the body can
read on instances of the class.
-/

namespace Memberwise

/-- One of the syntheses was made for the class, which was ready for the family. -/
def ReadyIn (ss : List ClassSynthesis) (family : Family) (c : ClassDecl) : Prop :=
  ∃ e : Engine, e.Reachable ∧ (e.check c family).isReady = true ∧ (e.synthesizeClass c).1 ∈ ss

/-- The property takes part in the family for a class of the program at or above `cls`. -/
def TakesPart (ss : List ClassSynthesis) (family : Family) (cls : ClassName) (p : Property) :
    Prop :=
  ∃ c, ReadyIn ss family c ∧ (Machine.holding ss).isSubclass cls c.name = true ∧
    ∃ q ∈ c.participants family, q.property = p

/-- From `start` upwards, `c` is the first class with a body for the member. -/
structure AnswersFrom (ss : List ClassSynthesis) (member : Member) (start : Option ClassName)
    (c : ClassDecl) : Prop where
  ready : ReadyIn ss member.family c
  above : ∃ cls, start = some cls ∧ (Machine.holding ss).isSubclass cls c.name = true
  parent : (Machine.holding ss).parents.get? c.name = c.superclass
  made : ∃ x, freshMember c member = .ok x ∧
    (Machine.holding ss).lookupFrom start member = some x.body

theorem ClassSynthesis.exists_of_bodyOf? {strictness : Strictness} {c : ClassDecl}
    {member : Member} {body : Body} (hbody : (fresh strictness c).bodyOf? member = some body) :
    (checkFamily c strictness member.family).isReady = true ∧
      ∃ x, freshMember c member = .ok x ∧ x.body = body := by
  rw [bodyOf?_fresh, Option.map_eq_some_iff] at hbody
  obtain ⟨x, hfind, rfl⟩ := hbody
  have hx : x ∈ freshFamily strictness c member.family :=
    List.mem_reverse.mp (List.mem_of_find?_eq_some hfind)
  obtain rfl : x.member = member := by simpa using List.find?_some hfind
  refine ⟨?_, x, (exists_of_mem_freshFamily hx).2, rfl⟩
  unfold freshFamily at hx
  split at hx
  · assumption
  · cases hx

theorem mem_membersOf (c : ClassDecl) {member : Member} (hmember : member.family ≠ .building) :
    member ∈ membersOf c member.family := by
  cases member with
  | equals | hash | print => simp [Member.family, membersOf]
  | setter _ | build => exact absurd rfl hmember

theorem ClassSynthesis.exists_bodyOf?_of_mem {strictness : Strictness} {c : ClassDecl}
    {member : Member} (hready : (checkFamily c strictness member.family).isReady = true)
    (hmember : member ∈ membersOf c member.family) :
    ∃ x, freshMember c member = .ok x ∧ (fresh strictness c).bodyOf? member = some x.body := by
  have hmade : member ∈ (freshFamily strictness c member.family).map (·.member) := by
    rw [map_member_freshFamily, if_pos hready]
    exact hmember
  obtain ⟨y, hy, hymember⟩ := List.mem_map.mp hmade
  cases hbody : (fresh strictness c).bodyOf? member with
  | none =>
    rw [bodyOf?_fresh, Option.map_eq_none_iff, List.find?_eq_none] at hbody
    exact absurd (decide_eq_true hymember) (hbody y (List.mem_reverse.mpr hy))
  | some body =>
    obtain ⟨-, x, hx, rfl⟩ := exists_of_bodyOf? hbody
    exact ⟨x, hx, rfl⟩

theorem ClassSynthesis.ready_of_mem_fresh {strictness : Strictness} {c : ClassDecl} {x : Method}
    (hx : x ∈ (fresh strictness c).methods) :
    (checkFamily c strictness x.member.family).isReady = true := by
  have hfamily {family : Family} (hx : x ∈ freshFamily strictness c family) :
      (checkFamily c strictness x.member.family).isReady = true := by
    obtain rfl := (exists_of_mem_freshFamily hx).1
    unfold freshFamily at hx
    split at hx
    · assumption
    · cases hx
  rcases List.mem_append.mp hx with hx | hx
  · rcases List.mem_append.mp hx with hx | hx
    · exact hfamily hx
    · exact hfamily hx
  · exact hfamily hx

namespace Machine

/-- A body that is found was made in one of the syntheses, in whatever order and however often they
were installed. -/
theorem exists_method_of_get?_bodies {ss : List ClassSynthesis} {cls : ClassName} {member : Member}
    {body : Body} (hbody : (holding ss).bodies.get? (cls, member) = some body) :
    ∃ s ∈ ss, ∃ x ∈ s.methods, x.owner = cls ∧ x.member = member ∧ x.body = body := by
  induction ss using List.reverseRecOn with
  | nil => cases hbody
  | append_singleton ss s ih =>
    rw [holding_concat, installAll, get?_bodies_foldl_install] at hbody
    rcases Option.or_eq_some_iff.mp hbody with hown | ⟨-, hbefore⟩
    · obtain ⟨x, hfind, rfl⟩ := Option.map_eq_some_iff.mp hown
      have hx := List.mem_reverse.mp (List.mem_of_find?_eq_some hfind)
      have hkey := List.find?_some hfind
      obtain ⟨howner, hmember⟩ := of_decide_eq_true hkey
      exact ⟨s, by simp, x, hx, howner, hmember, rfl⟩
    · obtain ⟨s', hs', hmade⟩ := ih hbefore
      exact ⟨s', List.mem_append_left _ hs', hmade⟩

/-- What was made in one of the syntheses may have been replaced, but not removed. -/
theorem exists_get?_bodies_of_mem {ss : List ClassSynthesis} {s : ClassSynthesis} (hs : s ∈ ss)
    {x : Method} (hx : x ∈ s.methods) :
    ∃ body, (holding ss).bodies.get? (x.owner, x.member) = some body := by
  induction ss using List.reverseRecOn with
  | nil => cases hs
  | append_singleton ss s' ih =>
    rw [holding_concat, installAll, get?_bodies_foldl_install]
    cases hfind : s'.methods.reverse.find? fun y => y.owner = x.owner ∧ y.member = x.member with
    | some y => exact ⟨y.body, rfl⟩
    | none =>
      rcases List.mem_append.mp hs with hs | hs
      · exact ih hs
      · obtain rfl := List.mem_singleton.mp hs
        have hnot := List.find?_eq_none.mp hfind x (List.mem_reverse.mpr hx)
        simp at hnot

variable {ss : List ClassSynthesis} (hss : ∀ s ∈ ss, s.FromEngine)

include hss

theorem exists_freshMember_of_get?_bodies {cls : ClassName} {member : Member} {body : Body}
    (hbody : (holding ss).bodies.get? (cls, member) = some body) :
    ∃ c, ReadyIn ss member.family c ∧
      ∃ x, freshMember c member = .ok x ∧ x.owner = cls ∧ x.body = body := by
  obtain ⟨s, hs, x, hx, rfl, rfl, rfl⟩ := exists_method_of_get?_bodies hbody
  obtain ⟨e, c, he, rfl⟩ := hss s hs
  rw [he.synthesizeClass_fst] at hx
  exact ⟨c, ⟨e, he, ClassSynthesis.ready_of_mem_fresh hx, hs⟩, x,
    ClassSynthesis.exists_of_mem_fresh hx, rfl, rfl⟩

theorem exists_freshMember_of_lookup {cls : ClassName} {member : Member} {body : Body}
    (hbody : (holding ss).lookup cls member = some body) :
    ∃ c, ReadyIn ss member.family c ∧ ∃ x, freshMember c member = .ok x ∧
      (holding ss).isSubclass cls x.owner = true ∧ x.body = body := by
  obtain ⟨above, habove, hget⟩ := List.exists_of_findSome?_eq_some hbody
  obtain ⟨c, hready, x, hx, rfl, rfl⟩ := exists_freshMember_of_get?_bodies hss hget
  exact ⟨c, hready, x, hx, (mem_ancestry_iff_isSubclass _).mp habove, rfl⟩

theorem exists_freshMember_of_lookupFrom {start : Option ClassName} {member : Member} {body : Body}
    (hbody : (holding ss).lookupFrom start member = some body) :
    ∃ c x, freshMember c member = .ok x ∧ x.body = body := by
  obtain ⟨cls, -, hlookup⟩ := Option.bind_eq_some_iff.mp hbody
  obtain ⟨c, -, x, hx, -, rfl⟩ := exists_freshMember_of_lookup hss hlookup
  exact ⟨c, x, hx, rfl⟩

end Machine

namespace IsProgram

variable {ss : List ClassSynthesis} (hss : IsProgram ss)

include hss

theorem get?_bodies_of_ready {member : Member} (hmember : member.family ≠ .building)
    {c : ClassDecl} (hready : ReadyIn ss member.family c) :
    ∃ x, freshMember c member = .ok x ∧
      (Machine.holding ss).bodies.get? (c.name, member) = some x.body := by
  obtain ⟨e, he, hready, hmem⟩ := hready
  rw [he.synthesizeClass_fst c] at hmem
  have hfind : ss.find? (·.cls = c.name) = some (.fresh e.strictness c) := hss.find?_of_mem hmem
  have hbodies := hss.get?_bodies c.name hmember
  rw [hfind, Option.bind_some] at hbodies
  obtain ⟨x, hx, hbody⟩ := ClassSynthesis.exists_bodyOf?_of_mem hready (mem_membersOf c hmember)
  exact ⟨x, hx, hbodies.trans hbody⟩

theorem exists_comparesFrom_of_ready (hready : ReadyIn ss .equality c) :
    ∃ options, c.annotations.equality = some options ∧
      (Machine.holding ss).ComparesFrom (some c.name) c options := by
  obtain ⟨e, he, hready, hs⟩ := hready
  rw [he.synthesizeClass_fst] at hs
  obtain ⟨options, hc⟩ := hss.compares_of_mem hs hready
  exact ⟨options, hc.requested, hc.comparesFrom⟩

theorem exists_of_get?_bodies {cls : ClassName} {member : Member}
    (hmember : member.family ≠ .building) {body : Body}
    (hbody : (Machine.holding ss).bodies.get? (cls, member) = some body) :
    ∃ c, c.name = cls ∧ ReadyIn ss member.family c ∧
      (Machine.holding ss).parents.get? c.name = c.superclass ∧
      ∃ x, freshMember c member = .ok x ∧ x.body = body := by
  rw [hss.get?_bodies cls hmember] at hbody
  obtain ⟨s, hfind, hmade⟩ := Option.bind_eq_some_iff.mp hbody
  have hmem := List.mem_of_find?_eq_some hfind
  obtain rfl : s.cls = cls := by simpa using List.find?_some hfind
  have hparent := hss.get?_parents s.cls
  rw [hfind, Option.bind_some] at hparent
  obtain ⟨e, c, he, rfl⟩ := hss.fromEngine s hmem
  have hfresh := he.synthesizeClass_fst c
  have hname : c.name = (e.synthesizeClass c).1.cls := by rw [hfresh]; rfl
  have hsuperclass : (e.synthesizeClass c).1.superclass = c.superclass := by rw [hfresh]; rfl
  rw [hfresh] at hmade
  obtain ⟨hready, hmade⟩ := ClassSynthesis.exists_of_bodyOf? hmade
  exact ⟨c, hname, ⟨e, he, hready, hmem⟩, hname ▸ hparent.trans hsuperclass, hmade⟩

theorem answersFrom_or_none {member : Member} (hmember : member.family ≠ .building)
    (start : Option ClassName) :
    (Machine.holding ss).lookupFrom start member = none ∨ ∃ c, AnswersFrom ss member start c := by
  cases hbody : (Machine.holding ss).lookupFrom start member with
  | none => exact .inl rfl
  | some body =>
    obtain ⟨cls, rfl, hlookup⟩ := Option.bind_eq_some_iff.mp hbody
    obtain ⟨_, hmem, hget⟩ := List.exists_of_findSome?_eq_some hlookup
    obtain ⟨c, rfl, hready, hparent, x, hx, rfl⟩ := hss.exists_of_get?_bodies hmember hget
    have hsub : (Machine.holding ss).isSubclass cls c.name = true :=
      (Machine.mem_ancestry_iff_isSubclass _).mp hmem
    exact .inr ⟨c, hready, ⟨cls, rfl, hsub⟩, hparent, x, hx, hbody⟩

end IsProgram

namespace AnswersFrom

variable {ss : List ClassSynthesis} {member : Member} {start : Option ClassName} {c : ClassDecl}
  (hc : AnswersFrom ss member start c) {cls : ClassName}

include hc

/-- Instances of the class that is asked are instances of the class that answers. -/
theorem isSubclass
    (hbelow : ∀ cls', start = some cls' → (Machine.holding ss).isSubclass cls cls' = true) :
    (Machine.holding ss).isSubclass cls c.name = true := by
  obtain ⟨asked, rfl, habove⟩ := hc.above
  exact Machine.isSubclass_trans (hbelow asked rfl) habove

theorem isSubclass_superclass (hcls : (Machine.holding ss).isSubclass cls c.name = true) :
    ∀ parent, c.superclass = some parent → (Machine.holding ss).isSubclass cls parent = true := by
  intro parent hparent
  exact Machine.isSubclass_parent hcls (hc.parent.trans hparent)

theorem takesPart (hcls : (Machine.holding ss).isSubclass cls c.name = true) {q : Participant}
    (hq : q ∈ c.participants member.family) : TakesPart ss member.family cls q.property :=
  ⟨c, hc.ready, hcls, q, hq, rfl⟩

end AnswersFrom

namespace ClassDecl

def printMethod (c : ClassDecl) (options : PrintingOptions) : Method :=
  Synthesis.print c.name c.superclass options (c.participants .printing)

variable {c : ClassDecl}

theorem participants_of_resolution? {family : Family} {r : Resolution}
    (hr : c.resolution? family = some r) : c.participants family = r.participants := by
  rw [participants, hr]
  rfl

theorem exists_of_freshMember_equality {member : Member} (hmember : member.family = .equality)
    {x : Method} (hx : freshMember c member = .ok x) :
    ∃ options, c.annotations.equality = some options ∧
      x = if member = .equals then c.equalsMethod options else c.hashMethod options := by
  cases member with
  | equals | hash =>
    simp only [freshMember] at hx
    split at hx
    · rename_i options r hoptions hr
      cases hx
      refine ⟨options, hoptions, ?_⟩
      rw [equalsMethod, hashMethod, participants_of_resolution? hr]
      rfl
    · cases hx
  | print | setter _ | build => cases hmember

theorem exists_of_freshMember_print {x : Method} (hx : freshMember c .print = .ok x) :
    ∃ options, c.annotations.printing = some options ∧ x = c.printMethod options := by
  simp only [freshMember] at hx
  split at hx
  · rename_i options r hoptions hr
    cases hx
    exact ⟨options, hoptions, by rw [printMethod, participants_of_resolution? hr]⟩
  · cases hx

theorem exists_of_freshMember_setter {param : String} {x : Method}
    (hx : freshMember c (.setter param) = .ok x) :
    ∃ plan slot, BuilderPlan.ofClass? c = some plan ∧ plan.slot? param = some slot ∧
      x = Synthesis.setter plan slot := by
  simp only [freshMember] at hx
  cases hplan : BuilderPlan.ofClass? c with
  | none => simp [hplan] at hx
  | some plan =>
    cases hslot : plan.slot? param with
    | none => simp [hplan, hslot] at hx
    | some slot =>
      simp only [hplan, hslot, Except.ok.injEq] at hx
      exact ⟨plan, slot, rfl, hslot, hx.symm⟩

theorem exists_of_freshMember_build {x : Method} (hx : freshMember c .build = .ok x) :
    ∃ plan, BuilderPlan.ofClass? c = some plan ∧ x = Synthesis.build plan := by
  simp only [freshMember] at hx
  cases hplan : BuilderPlan.ofClass? c with
  | none => simp [hplan] at hx
  | some plan =>
    simp only [hplan, Except.ok.injEq] at hx
    exact ⟨plan, rfl, hx.symm⟩

end ClassDecl

namespace Machine

variable {ss : List ClassSynthesis} (hss : ∀ s ∈ ss, s.FromEngine) {start : Option ClassName}
  {body : Body}

include hss

theorem equalsMethod_of_lookupFrom (hbody : (holding ss).lookupFrom start .equals = some body) :
    ∃ (c : ClassDecl) (options : EqualityOptions), body = (c.equalsMethod options).body := by
  obtain ⟨c, x, hx, rfl⟩ := exists_freshMember_of_lookupFrom hss hbody
  obtain ⟨options, -, rfl⟩ := ClassDecl.exists_of_freshMember_equality rfl hx
  exact ⟨c, options, rfl⟩

theorem hashMethod_of_lookupFrom (hbody : (holding ss).lookupFrom start .hash = some body) :
    ∃ (c : ClassDecl) (options : EqualityOptions), body = (c.hashMethod options).body := by
  obtain ⟨c, x, hx, rfl⟩ := exists_freshMember_of_lookupFrom hss hbody
  obtain ⟨options, -, rfl⟩ := ClassDecl.exists_of_freshMember_equality rfl hx
  exact ⟨c, options, rfl⟩

theorem printMethod_of_lookupFrom (hbody : (holding ss).lookupFrom start .print = some body) :
    ∃ (c : ClassDecl) (options : PrintingOptions), body = (c.printMethod options).body := by
  obtain ⟨c, x, hx, rfl⟩ := exists_freshMember_of_lookupFrom hss hbody
  obtain ⟨options, -, rfl⟩ := ClassDecl.exists_of_freshMember_print hx
  exact ⟨c, options, rfl⟩

end Machine

namespace AnswersFrom

variable {ss : List ClassSynthesis} {start : Option ClassName} {c : ClassDecl}

theorem equals (hc : AnswersFrom ss .equals start c) :
    ∃ options, c.annotations.equality = some options ∧
      (Machine.holding ss).lookupFrom start .equals = some (c.equalsMethod options).body := by
  obtain ⟨x, hx, hlookup⟩ := hc.made
  obtain ⟨options, hoptions, rfl⟩ := ClassDecl.exists_of_freshMember_equality rfl hx
  exact ⟨options, hoptions, hlookup⟩

theorem hash (hc : AnswersFrom ss .hash start c) :
    ∃ options, c.annotations.equality = some options ∧
      (Machine.holding ss).lookupFrom start .hash = some (c.hashMethod options).body := by
  obtain ⟨x, hx, hlookup⟩ := hc.made
  obtain ⟨options, hoptions, rfl⟩ := ClassDecl.exists_of_freshMember_equality rfl hx
  exact ⟨options, hoptions, hlookup⟩

theorem print (hc : AnswersFrom ss .print start c) :
    ∃ options, c.annotations.printing = some options ∧
      (Machine.holding ss).lookupFrom start .print = some (c.printMethod options).body := by
  obtain ⟨x, hx, hlookup⟩ := hc.made
  obtain ⟨options, hoptions, rfl⟩ := ClassDecl.exists_of_freshMember_print hx
  exact ⟨options, hoptions, hlookup⟩

end AnswersFrom

end Memberwise

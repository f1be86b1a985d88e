import Mathlib.Data.List.Basic
import Memberwise.Proofs.Engine.Agreement

/-!
# Families do not interfere

Of a class, each family sees some data and no more. Blanking out what it does not see changes
neither the report on the family nor its members, so that classes which look alike to the family
fare alike in it, however they differ otherwise and whatever engines have done before.
-/

namespace Memberwise

/-- Equality tells arrays from other types and building compares types, printing does neither. -/
def Property.seenBy (family : Family) (p : Property) : Property :=
  match family with
  | .equality => { p with type := ⟨"", false, p.type.array⟩, printing := .none }
  | .printing =>
    { Property.ofBody p.name default with storage := p.storage, printing := p.printing }
  | .building => { Property.ofBody p.name p.type with storage := p.storage }

/-- The class with everything blank that the family does not see. -/
def ClassDecl.seenBy (family : Family) (c : ClassDecl) : ClassDecl :=
  let outline :=
    { ClassDecl.empty c.name c.kind with
      modifiers := c.modifiers, location := c.location,
      properties := c.properties.map (Property.seenBy family) }
  match family with
  | .equality =>
    { outline with
      superclass := c.superclass,
      userMethods := { c.userMethods with print := none },
      annotations := { Annotations.none with equality := c.annotations.equality } }
  | .printing =>
    { outline with
      superclass := c.superclass,
      userMethods := { UserMethods.none with print := c.userMethods.print },
      annotations := { Annotations.none with printing := c.annotations.printing } }
  | .building =>
    { outline with
      primary := c.primary,
      builder := c.builder,
      annotations := { Annotations.none with buildable := c.annotations.buildable } }

def Participant.seenBy (family : Family) (q : Participant) : Participant :=
  { q with property := q.property.seenBy family }

def Resolution.seenBy (family : Family) (r : Resolution) : Resolution :=
  { r with participants := r.participants.map (Participant.seenBy family) }

/-- The class with what belongs to one family alone replaced: its annotation, its marks, and for
building the builder. -/
def ClassDecl.reworked (c : ClassDecl) (family : Family) (annotations : Annotations)
    (marks : Property → Marks) (builder : Option BuilderDecl) : ClassDecl :=
  match family with
  | .equality =>
    { c with
      annotations := { c.annotations with equality := annotations.equality },
      properties := c.properties.map fun p => { p with equality := marks p } }
  | .printing =>
    { c with
      annotations := { c.annotations with printing := annotations.printing },
      properties := c.properties.map fun p => { p with printing := marks p } }
  | .building =>
    { c with
      annotations := { c.annotations with buildable := annotations.buildable },
      builder }

theorem ClassDecl.seenBy_reworked (c : ClassDecl) {family other : Family} (hne : other ≠ family)
    (annotations : Annotations) (marks : Property → Marks) (builder : Option BuilderDecl) :
    (c.reworked other annotations marks builder).seenBy family = c.seenBy family := by
  cases other <;> cases family <;>
    first
    | exact absurd rfl hne
    | simp [seenBy, reworked, Property.seenBy]

theorem InclusionPolicy.decide_seenBy (policy : InclusionPolicy) (p : Property) :
    policy.decide (p.seenBy policy.family) = policy.decide p := by
  unfold InclusionPolicy.decide
  cases policy.family <;> rfl

namespace Resolution

theorem participant?_seenBy (policy : InclusionPolicy) (p : Property) :
    participant? policy (p.seenBy policy.family) =
      (participant? policy p).map (Participant.seenBy policy.family) := by
  unfold participant?
  rw [policy.decide_seenBy]
  cases policy.decide p <;> rfl

theorem compute_seenBy (policy : InclusionPolicy) (properties : List Property) :
    compute (properties.map (Property.seenBy policy.family)) policy =
      (compute properties policy).seenBy policy.family := by
  have hparticipants :
      (properties.map (Property.seenBy policy.family)).filterMap (participant? policy) =
        (properties.filterMap (participant? policy)).map (Participant.seenBy policy.family) := by
    rw [List.filterMap_map, List.map_filterMap]
    exact congrArg (properties.filterMap ·) (funext (participant?_seenBy policy))
  have hrejected :
      (properties.map (Property.seenBy policy.family)).filterMap (rejection? policy) =
        properties.filterMap (rejection? policy) := by
    rw [List.filterMap_map]
    refine congrArg (properties.filterMap ·) (funext fun p => ?_)
    simp only [Function.comp_apply, rejection?, policy.decide_seenBy]
  simp only [compute, seenBy, hparticipants, hrejected]

end Resolution

theorem InclusionPolicy.family_of_ofClass? {c : ClassDecl} {family : Family}
    {policy : InclusionPolicy} (hpolicy : ofClass? c family = some policy) :
    policy.family = family := by
  cases family with
  | equality | printing =>
    obtain ⟨options, -, rfl⟩ := Option.map_eq_some_iff.mp hpolicy
    rfl
  | building => cases hpolicy

namespace ClassDecl

variable (c : ClassDecl) (family : Family)

theorem ofClass?_seenBy :
    InclusionPolicy.ofClass? (c.seenBy family) family = InclusionPolicy.ofClass? c family := by
  cases family <;> rfl

theorem properties_seenBy :
    (c.seenBy family).properties = c.properties.map (Property.seenBy family) := by
  cases family <;> rfl

theorem resolution?_seenBy :
    (c.seenBy family).resolution? family =
      (c.resolution? family).map (Resolution.seenBy family) := by
  rw [resolution?, resolution?, ofClass?_seenBy, properties_seenBy]
  cases hpolicy : InclusionPolicy.ofClass? c family with
  | none => rfl
  | some policy =>
    obtain rfl := InclusionPolicy.family_of_ofClass? hpolicy
    exact congrArg some (Resolution.compute_seenBy policy c.properties)

theorem name_seenBy : (c.seenBy family).name = c.name := by
  cases family <;> rfl

end ClassDecl

namespace Readiness

variable (c : ClassDecl)

theorem checkMarks_seenBy : checkMarks (c.seenBy .equality) = checkMarks c := by
  unfold checkMarks
  rw [c.ofClass?_seenBy, c.properties_seenBy]
  cases hpolicy : InclusionPolicy.ofClass? c .equality with
  | none => rfl
  | some policy =>
    have hfamily := InclusionPolicy.family_of_ofClass? hpolicy
    have hmark (p : Property) : checkMark policy (p.seenBy .equality) = checkMark policy p := by
      rw [← hfamily, checkMark, checkMark, policy.decide_seenBy]
    simp only [List.flatMap_map, hmark]

theorem checkEquality_seenBy : checkEquality (c.seenBy .equality) = checkEquality c := by
  unfold checkEquality
  rw [checkMarks_seenBy]
  rfl

theorem isStoredProperty_seenBy (p : Parameter) :
    isStoredProperty (c.seenBy .building) p = isStoredProperty c p := by
  unfold isStoredProperty ClassDecl.property?
  rw [c.properties_seenBy, List.find?_map, Option.any_map]
  rfl

theorem shapeProblem_seenBy (b : BuilderDecl) :
    shapeProblem (c.seenBy .building) b = shapeProblem c b := by
  unfold shapeProblem
  simp only [isStoredProperty_seenBy]
  rfl

theorem checkBuilding_seenBy (strictness : Strictness) :
    checkBuilding (c.seenBy .building) strictness = checkBuilding c strictness := by
  unfold checkBuilding
  simp only [shapeProblem_seenBy]
  rfl

end Readiness

theorem checkFamily_seenBy (c : ClassDecl) (strictness : Strictness) (family : Family) :
    checkFamily (c.seenBy family) strictness family = checkFamily c strictness family := by
  cases family with
  | equality => exact Readiness.checkEquality_seenBy c
  | printing => rfl
  | building => exact Readiness.checkBuilding_seenBy c strictness

namespace Synthesis

variable (cls : ClassName) (superclass : Option ClassName) (ps : List Participant)

theorem equals_seenBy (options : EqualityOptions) :
    equals cls superclass options (ps.map (Participant.seenBy .equality)) =
      equals cls superclass options ps := by
  simp only [equals, equalsStmts, List.map_map]
  rfl

theorem hash_seenBy (options : EqualityOptions) :
    hash cls superclass options (ps.map (Participant.seenBy .equality)) =
      hash cls superclass options ps := by
  simp only [hash, hashStmts, List.map_map, List.isEmpty_map]
  rfl

theorem print_seenBy (options : PrintingOptions) :
    print cls superclass options (ps.map (Participant.seenBy .printing)) =
      print cls superclass options ps := by
  simp only [print, segments, List.map_map]
  rfl

end Synthesis

theorem equalityMethod_seenBy (c : ClassDecl) (options : EqualityOptions) (r : Resolution)
    (member : Member) :
    equalityMethod (c.seenBy .equality) options (r.seenBy .equality) member =
      equalityMethod c options r member := by
  unfold equalityMethod Resolution.seenBy
  split
  · exact Synthesis.equals_seenBy _ _ _ options
  · exact Synthesis.hash_seenBy _ _ _ options

theorem freshMember_seenBy (c : ClassDecl) (member : Member) :
    freshMember (c.seenBy member.family) member = freshMember c member := by
  cases member with
  | equals | hash =>
    have hoptions : (c.seenBy .equality).annotations.equality = c.annotations.equality := rfl
    simp only [freshMember, Member.family, c.resolution?_seenBy, c.name_seenBy, hoptions]
    cases c.annotations.equality <;> cases c.resolution? .equality <;>
      simp [equalityMethod_seenBy]
  | print =>
    have hoptions : (c.seenBy .printing).annotations.printing = c.annotations.printing := rfl
    have hsuperclass : (c.seenBy .printing).superclass = c.superclass := rfl
    simp only [freshMember, Member.family, c.resolution?_seenBy, c.name_seenBy, hoptions,
      hsuperclass]
    cases c.annotations.printing <;> cases c.resolution? .printing <;>
      simp [Resolution.seenBy, Synthesis.print_seenBy]
  | setter param | build => rfl

theorem plan_seenBy (c : ClassDecl) :
    BuilderPlan.ofClass? (c.seenBy .building) = BuilderPlan.ofClass? c :=
  rfl

theorem membersOf_seenBy (c : ClassDecl) (family : Family) :
    membersOf (c.seenBy family) family = membersOf c family := by
  cases family <;> rfl

theorem freshFamily_seenBy (c : ClassDecl) (strictness : Strictness) (family : Family) :
    freshFamily strictness (c.seenBy family) family = freshFamily strictness c family := by
  unfold freshFamily
  rw [checkFamily_seenBy, membersOf_seenBy]
  have hmember (member : Member) (hmember : member ∈ membersOf c family) :
      freshMember (c.seenBy family) member = freshMember c member := by
    obtain rfl := family_of_mem_membersOf hmember
    exact freshMember_seenBy c member
  rw [List.filterMap_congr fun member h => congrArg Except.toOption (hmember member h)]

theorem freshAnswer_seenBy (c : ClassDecl) (strictness : Strictness) (member : Member) :
    freshAnswer strictness (c.seenBy member.family) member = freshAnswer strictness c member := by
  unfold freshAnswer
  rw [checkFamily_seenBy, freshMember_seenBy, ClassDecl.name_seenBy]

namespace Engine

/-- All that two engines say about one family, each of its own class, is the same. -/
structure Alike (family : Family) (e e' : Engine) (c d : ClassDecl) : Prop where
  report : e.check c family = e'.check d family
  member : ∀ member, member.family = family →
    (e.synthesize member c).1 = (e'.synthesize member d).1
  methods : (e.synthesizeClass c).1.methods.filter (·.origin = family) =
    (e'.synthesizeClass d).1.methods.filter (·.origin = family)
  plan : family = .building → (e.builderPlan c).1 = (e'.builderPlan d).1 ∧
    (e.synthesizeClass c).1.builder = (e'.synthesizeClass d).1.builder

/-- What the engines have done before and what the family does not see make no difference. -/
theorem Reachable.alike_of_seenBy {e e' : Engine} (he : e.Reachable) (he' : e'.Reachable)
    (hstrictness : e.strictness = e'.strictness) {family : Family} {c d : ClassDecl}
    (hsame : c.seenBy family = d.seenBy family) : Alike family e e' c d := by
  have hreport : checkFamily c e.strictness family = checkFamily d e.strictness family := by
    rw [← checkFamily_seenBy c, hsame, checkFamily_seenBy]
  refine ⟨?_, ?_, ?_, ?_⟩
  · rw [Engine.check, Engine.check, ← hstrictness, hreport]
  · rintro member rfl
    rw [he.synthesize_fst, he'.synthesize_fst, ← hstrictness, ← freshAnswer_seenBy c, hsame,
      freshAnswer_seenBy]
  · rw [he.synthesizeClass_fst, he'.synthesizeClass_fst, ← hstrictness, filter_origin_fresh,
      filter_origin_fresh, ← freshFamily_seenBy c, hsame, freshFamily_seenBy]
  · rintro rfl
    have hname : c.name = d.name := by rw [← c.name_seenBy .building, hsame, d.name_seenBy]
    have hplan : BuilderPlan.ofClass? c = BuilderPlan.ofClass? d := by
      rw [← plan_seenBy, hsame, plan_seenBy]
    constructor
    · simp only [Engine.builderPlan, Engine.check, ← hstrictness, hreport, hname, hplan]
    · simp only [he.synthesizeClass_fst, he'.synthesizeClass_fst, ← hstrictness,
        ClassSynthesis.fresh, hreport, hplan]

/-- Engines under the same settings answer alike about a family of two classes that agree on all
that it sees; so they do however what belongs to other families is reworked. -/
theorem after_alike (settings : Settings) (history history' : List Operation) (c d : ClassDecl)
    (family : Family) :
    let e := after settings history
    let e' := after settings history'
    (c.seenBy family = d.seenBy family → Alike family e e' c d) ∧
      ∀ other ≠ family, ∀ annotations marks builder,
        Alike family e e' c (c.reworked other annotations marks builder) := by
  intro e e'
  have halike {d : ClassDecl} (hsame : c.seenBy family = d.seenBy family) :
      Alike family e e' c d :=
    (reachable_after settings history).alike_of_seenBy (reachable_after settings history')
      ((strictness_after _ _).trans (strictness_after _ _).symm) hsame
  refine ⟨halike, ?_⟩
  intro other hne annotations marks builder
  exact halike (c.seenBy_reworked hne annotations marks builder).symm

end Engine

namespace Badge

def code : Parameter := ⟨"code", .string, none, ⟨7⟩⟩

def plain : ClassDecl :=
  { (ClassDecl.empty ⟨"Badge"⟩ .plain).withPrimary [code] with
    annotations := { Annotations.none with equality := some default } }

/-- The same to equality, but printed under another label and with a builder. -/
def full : ClassDecl :=
  { plain with
    properties := plain.properties.map fun p =>
      { p with type := .orNull "Serial", printing := .includingAs "no" },
    primary := some [{ code with default? := some .null }],
    annotations := { plain.annotations with printing := some default, buildable := true },
    builder := some (.conventional plain) }

end Badge

theorem Engine.after_alike_badge :
    let e := after .standard [.synthesizeClass Badge.full, .validate Badge.plain]
    let e' := after .standard [.synthesize .hash Badge.plain]
    Badge.plain ≠ Badge.full ∧
      e.check Badge.plain .equality = e'.check Badge.full .equality ∧
      (e.synthesize .hash Badge.plain).1 = (e'.synthesize .hash Badge.full).1 := by
  have halike := (after_alike .standard [.synthesizeClass Badge.full, .validate Badge.plain]
    [.synthesize .hash Badge.plain] Badge.plain Badge.full .equality).1 (by decide)
  exact ⟨by decide, halike.report, halike.member .hash rfl⟩

end Memberwise

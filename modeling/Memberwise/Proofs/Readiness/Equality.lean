import Memberwise.Proofs.Engine.Agreement
import Memberwise.Proofs.Equality.Dispatch
import Memberwise.Proofs.Inclusion.Conditions

/-!
# Readiness for equality and the resolution

The check and the resolution go over the properties of a class on their own. They refuse the same
marks in the same order, so that no mark is lost on a class that is found ready: each property that
is marked takes part in the members.
-/

namespace Memberwise

/-- A declaration of one of the methods, here or above, leaves nothing to synthesize. -/
def ClassDecl.Blocks (c : ClassDecl) (methods : List ObjectMethod) : Prop :=
  ∃ method ∈ methods, ∃ found, c.userMethods.find? method = some found ∧ found.blocks = true

theorem UserMethod.blocks_eq_false_iff {found : UserMethod} :
    found.blocks = false ↔ found.declaredHere = false ∧ found.isFinal = false :=
  Bool.or_eq_false_iff

theorem blockingMethod_eq_none_iff {c : ClassDecl} {methods : List ObjectMethod} :
    blockingMethod c methods = none ↔ ¬ c.Blocks methods := by
  rw [blockingMethod, List.findSome?_eq_none_iff]
  constructor
  · rintro hnone ⟨method, hmethod, found, hfound, hblocks⟩
    have hfree := hnone method hmethod
    rw [hfound] at hfree
    cases hdeclared : found.declaredHere with
    | true => simp [hdeclared] at hfree
    | false =>
      cases hfinal : found.isFinal with
      | true => simp [hdeclared, hfinal] at hfree
      | false => simp [UserMethod.blocks, hdeclared, hfinal] at hblocks
  · intro hfree method hmethod
    cases hfound : c.userMethods.find? method with
    | none => rfl
    | some found =>
      have hblocks : found.blocks = false := by
        by_contra hblocks
        exact hfree ⟨method, hmethod, found, hfound, by simpa using hblocks⟩
      have hopen := UserMethod.blocks_eq_false_iff.mp hblocks
      simp [hopen]

theorem Diagnostics.hasErrors_map_refusal (ps : List Property) :
    hasErrors (ps.map Property.refusal) = true ↔ ps.map Property.refusal ≠ [] := by
  cases ps with
  | nil => simp
  | cons p ps => simp [hasErrors, Diagnostic.isError, Property.refusal, Problem.report]

namespace Readiness

variable {c : ClassDecl} {policy : InclusionPolicy} {r : Resolution}

theorem checkMark_eq (policy : InclusionPolicy) (p : Property) :
    checkMark policy p = (Resolution.rejection? policy p).toList := by
  unfold checkMark Resolution.rejection?
  cases policy.decide p <;> rfl

/-- The check of the marks and the resolution agree on every list of properties. -/
theorem checkMarks_eq_rejected (hr : c.resolution? .equality = some r) :
    checkMarks c = r.rejected := by
  obtain ⟨policy, hpolicy, rfl⟩ := Option.map_eq_some_iff.mp hr
  unfold checkMarks
  rw [hpolicy]
  have hmark := funext (checkMark_eq policy)
  simp only [Resolution.compute, List.filterMap_eq_flatMap_toList, hmark]

def superProblem (c : ClassDecl) (options : EqualityOptions) : Diagnostics :=
  if options.callSuper = true ∧ c.superclass = none then
    [(Problem.equalityWithoutSuper c.short).report .error c.location]
  else []

section

variable {options : EqualityOptions} (hoptions : c.annotations.equality = some options)

include hoptions

theorem checkEquality_of_not_regular (hregular : c.isPlainRegular = false) :
    checkEquality c = ⟨.equality, .rejected,
      [(Problem.equalityUnsupported c.short c.kind).report .error c.location]⟩ := by
  simp [checkEquality, hoptions, hregular, Report.conclude]

theorem checkEquality_of_blocks (hregular : c.isPlainRegular = true)
    (hblocks : c.Blocks [.equals, .hash]) :
    ∃ problem : Problem,
      checkEquality c = ⟨.equality, .skipped, [problem.report .info c.location]⟩ := by
  cases hmethod : blockingMethod c [.equals, .hash] with
  | none => exact absurd hblocks (blockingMethod_eq_none_iff.mp hmethod)
  | some problem =>
    refine ⟨problem, ?_⟩
    simp [checkEquality, hoptions, hregular, hmethod, Report.skipped]

theorem checkEquality_of_not_blocks (hregular : c.isPlainRegular = true)
    (hblocks : ¬ c.Blocks [.equals, .hash]) (hr : c.resolution? .equality = some r) :
    checkEquality c = .conclude .equality (superProblem c options ++ r.rejected) := by
  have hmethod := blockingMethod_eq_none_iff.mpr hblocks
  simp [checkEquality, hoptions, hregular, hmethod, superProblem, checkMarks_eq_rejected hr]

end

theorem hasErrors_superProblem_append (hr : c.resolution? .equality = some r)
    (options : EqualityOptions) :
    Diagnostics.hasErrors (superProblem c options ++ r.rejected) = true ↔
      superProblem c options ++ r.rejected ≠ [] := by
  obtain ⟨policy, hpolicy, rfl⟩ := Option.map_eq_some_iff.mp hr
  have hrejected := Diagnostics.hasErrors_map_refusal (c.properties.filter (c.Refuses · .equality))
  rw [← Resolution.rejected_compute hpolicy] at hrejected
  unfold superProblem
  split
  · rw [Diagnostics.hasErrors_append, Diagnostics.hasErrors_report_error]
    simp
  · simpa using hrejected

end Readiness

theorem ClassDecl.sublist_participants {c : ClassDecl} {r : Resolution}
    (hr : c.resolution? .equality = some r) (hrejected : r.rejected = []) :
    (c.properties.filter fun p => p.equality.included.isSome && !p.equality.excluded).Sublist
      (r.participants.map (·.property)) := by
  obtain ⟨policy, hpolicy, rfl⟩ := Option.map_eq_some_iff.mp hr
  rw [Resolution.rejected_compute hpolicy, List.map_eq_nil_iff, List.filter_eq_nil_iff] at hrejected
  have hmarked (p : Property) (hp : p ∈ c.properties)
      (hmark : (p.equality.included.isSome && !p.equality.excluded) = true) :
      c.Includes policy p .equality := by
    obtain ⟨hincluded, hexcluded⟩ : p.equality.included.isSome = true ∧
        p.equality.excluded = false := by simpa using hmark
    have hrefuses : ¬ c.Refuses p .equality := by simpa using hrejected p hp
    have heligible : ¬ c.Ineligible p := fun h => hrefuses ⟨hexcluded, hincluded, h⟩
    exact ⟨hexcluded, heligible, .inl hincluded⟩
  have hparticipants : (Resolution.compute c.properties policy).participants.map (·.property) =
      c.properties.filter (c.Includes policy · .equality) := by
    rw [Resolution.participants_compute hpolicy, List.map_map]
    exact List.map_id _
  rw [hparticipants]
  have hfilter : (c.properties.filter fun p =>
        p.equality.included.isSome && !p.equality.excluded) =
      (c.properties.filter (c.Includes policy · .equality)).filter fun p =>
        p.equality.included.isSome && !p.equality.excluded := by
    rw [List.filter_filter]
    refine List.filter_congr fun p hp => ?_
    cases hmark : p.equality.included.isSome && !p.equality.excluded with
    | false => rfl
    | true => simp [hmarked p hp hmark]
  rw [hfilter]
  exact List.filter_sublist

namespace Engine

/-- All that the engine makes of the class for equality comes from the one resolution. -/
structure UsesResolution (e : Engine) (c : ClassDecl) (options : EqualityOptions)
    (r : Resolution) : Prop where
  resolve : (e.cache.resolve c .equality).1 = some r
  equals : (e.synthesize .equals c).1 =
    .ok (Synthesis.equals c.name c.superclass options r.participants)
  hash : (e.synthesize .hash c).1 =
    .ok (Synthesis.hash c.name c.superclass options r.participants)
  methods : (e.synthesizeClass c).1.methods.filter (·.origin = .equality) =
    [Synthesis.equals c.name c.superclass options r.participants,
      Synthesis.hash c.name c.superclass options r.participants]

theorem Reachable.usesResolution {e : Engine} (he : e.Reachable) {c : ClassDecl}
    {options : EqualityOptions} {r : Resolution} (hoptions : c.annotations.equality = some options)
    (hr : c.resolution? .equality = some r)
    (hready : (Readiness.checkEquality c).isReady = true) : e.UsesResolution c options r where
  resolve := by rw [he.sound.resolve_fst, hr]
  equals := by
    have hanswer : freshAnswer e.strictness c .equals = _ := freshAnswer_of_ready hready
    rw [he.synthesize_fst, hanswer]
    simp only [freshMember, hoptions, hr]
    rfl
  hash := by
    have hanswer : freshAnswer e.strictness c .hash = _ := freshAnswer_of_ready hready
    rw [he.synthesize_fst, hanswer]
    simp only [freshMember, hoptions, hr]
    rfl
  methods := by
    obtain ⟨options', hoptions', hfamily⟩ := freshFamily_equality e.strictness hready
    cases hoptions.symm.trans hoptions'
    rw [he.synthesizeClass_fst, filter_origin_fresh, hfamily,
      ClassDecl.equalsMethod, ClassDecl.hashMethod, ClassDecl.participants, hr]
    rfl

end Engine

namespace Ledger

def options : EqualityOptions := { (default : EqualityOptions) with callSuper := true }

def owner : Property :=
  { Property.deferred "owner" .string with equality := .includingAs "held by" }

def total : Property :=
  { Property.computed "total" .int with equality := Marks.including.butExcluded }

def cls : ClassDecl :=
  { ClassDecl.empty ⟨"Ledger"⟩ .plain with
    superclass := some ⟨"Book"⟩, properties := [owner, .ofBody "note" .string, total],
    annotations := { Annotations.none with equality := some options } }

def withFinalHash : ClassDecl :=
  { cls with userMethods := UserMethods.none.report .hash .inheritedFinal }

end Ledger

end Memberwise

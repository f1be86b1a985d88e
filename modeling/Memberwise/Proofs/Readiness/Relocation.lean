import Mathlib.Data.List.Basic
import Memberwise.Engine.Event
import Memberwise.Proofs.Readiness.Reports

/-!
# Locations in the checks

The checks copy the location of a declaration onto what they report on it and never look at it. So
a map of locations, whether or not it keeps them apart, can be applied to a class before the checks
or to the reports after them.
-/

namespace Memberwise

variable (f : Location → Location)

def Property.relocate (p : Property) : Property := { p with location := f p.location }

def Parameter.relocate (p : Parameter) : Parameter := { p with location := f p.location }

def BuilderMethod.relocate (m : BuilderMethod) : BuilderMethod :=
  { m with location := f m.location }

def BuilderDecl.relocate (b : BuilderDecl) : BuilderDecl :=
  { b with methods := b.methods.map (BuilderMethod.relocate f), location := f b.location }

def ClassDecl.relocate (c : ClassDecl) : ClassDecl :=
  { c with
    properties := c.properties.map (Property.relocate f),
    primary := c.primary.map fun ps => ps.map (Parameter.relocate f),
    builder := c.builder.map (BuilderDecl.relocate f),
    location := f c.location }

def Diagnostic.relocate (d : Diagnostic) : Diagnostic := { d with location := f d.location }

def Diagnostics.relocate (ds : Diagnostics) : Diagnostics := ds.map (Diagnostic.relocate f)

def Report.relocate (r : Report) : Report := { r with diagnostics := r.diagnostics.relocate f }

def Decision.relocate : Decision → Decision
  | included label => included label
  | excluded => excluded
  | rejected d => rejected (d.relocate f)

def Participant.relocate (q : Participant) : Participant :=
  { q with property := q.property.relocate f }

def Resolution.relocate (r : Resolution) : Resolution :=
  { r with
    participants := r.participants.map (Participant.relocate f),
    rejected := r.rejected.relocate f }

namespace Diagnostics

variable (ds es : Diagnostics)

theorem relocate_append : relocate f (ds ++ es) = relocate f ds ++ relocate f es :=
  List.map_append

theorem relocate_flatMap {α : Type} (check : α → Diagnostics) (as : List α) :
    relocate f (as.flatMap check) = as.flatMap fun a => relocate f (check a) :=
  List.map_flatMap

theorem hasErrors_relocate : (relocate f ds).hasErrors = ds.hasErrors := by
  unfold relocate hasErrors
  rw [List.any_map]
  rfl

/-- What is reported on a condition is reported elsewhere on the same condition. -/
theorem relocate_ite (p : Prop) [Decidable p] :
    relocate f (if p then ds else es) = if p then relocate f ds else relocate f es :=
  apply_ite ..

end Diagnostics

theorem Report.conclude_relocate (family : Family) (ds : Diagnostics) :
    conclude family (ds.relocate f) = (conclude family ds).relocate f := by
  unfold conclude
  rw [ds.hasErrors_relocate]
  rfl

namespace InclusionPolicy

variable (policy : InclusionPolicy) (p : Property)

/-- Only a refused mark is reported on, and no default refuses. -/
theorem relocate_byDefault : (policy.byDefault p).relocate f = policy.byDefault p := by
  unfold byDefault
  split <;> rfl

theorem decide_relocate : policy.decide (p.relocate f) = (policy.decide p).relocate f := by
  unfold InclusionPolicy.decide
  cases policy.family with
  | equality =>
    cases hincluded : p.equality.included <;>
      simp only [decideEquality, Property.relocate, hincluded, apply_ite (Decision.relocate f),
        relocate_byDefault] <;>
      rfl
  | printing =>
    cases hincluded : p.printing.included <;>
      simp only [decidePrinting, Property.relocate, hincluded, apply_ite (Decision.relocate f),
        relocate_byDefault] <;>
      rfl
  | building => rfl

end InclusionPolicy

namespace Resolution

variable (policy : InclusionPolicy)

theorem participant?_relocate (p : Property) :
    participant? policy (p.relocate f) = (participant? policy p).map (Participant.relocate f) := by
  unfold participant?
  rw [policy.decide_relocate]
  cases policy.decide p <;> rfl

theorem rejection?_relocate (p : Property) :
    rejection? policy (p.relocate f) = (rejection? policy p).map (Diagnostic.relocate f) := by
  unfold rejection?
  rw [policy.decide_relocate]
  cases policy.decide p <;> rfl

theorem filterMap_map_of_comm {α β : Type} {g : α → Option β} {move : α → α} {move' : β → β}
    (hcomm : ∀ a, g (move a) = (g a).map move') (as : List α) :
    (as.map move).filterMap g = (as.filterMap g).map move' := by
  rw [List.filterMap_map, List.map_filterMap]
  exact congrArg (as.filterMap ·) (funext hcomm)

theorem compute_relocate (properties : List Property) :
    compute (properties.map (Property.relocate f)) policy =
      (compute properties policy).relocate f := by
  unfold compute
  rw [filterMap_map_of_comm (participant?_relocate f policy),
    filterMap_map_of_comm (rejection?_relocate f policy)]
  rfl

end Resolution

namespace ClassDecl

variable (c : ClassDecl)

theorem params_relocate : (c.relocate f).params = c.params.map (Parameter.relocate f) := by
  unfold params relocate
  cases c.primary <;> rfl

theorem property?_relocate (name : String) :
    (c.relocate f).property? name = (c.property? name).map (Property.relocate f) :=
  List.find?_map

theorem ofClass?_relocate (family : Family) :
    InclusionPolicy.ofClass? (c.relocate f) family = InclusionPolicy.ofClass? c family := by
  cases family <;> rfl

end ClassDecl

theorem BuilderDecl.isNone_method?_relocate (b : BuilderDecl) (name : String) :
    ((b.relocate f).method? name).isNone = (b.method? name).isNone := by
  have hfind : (b.relocate f).method? name = (b.method? name).map (BuilderMethod.relocate f) :=
    List.find?_map
  rw [hfind, Option.isNone_map]

namespace Readiness

open Diagnostics

variable (c : ClassDecl) (b : BuilderDecl)

theorem checkMark_relocate (policy : InclusionPolicy) (p : Property) :
    checkMark policy (p.relocate f) = (checkMark policy p).relocate f := by
  unfold checkMark
  rw [policy.decide_relocate]
  cases policy.decide p <;> rfl

theorem checkMarks_relocate : checkMarks (c.relocate f) = (checkMarks c).relocate f := by
  unfold checkMarks
  rw [c.ofClass?_relocate]
  cases InclusionPolicy.ofClass? c .equality with
  | none => rfl
  | some policy =>
    simp only [ClassDecl.relocate, List.flatMap_map, checkMark_relocate, relocate_flatMap]

theorem checkEquality_relocate : checkEquality (c.relocate f) = (checkEquality c).relocate f := by
  have hoptions : (c.relocate f).annotations.equality = c.annotations.equality := rfl
  have hplain : (c.relocate f).isPlainRegular = c.isPlainRegular := rfl
  have hblocking : blockingMethod (c.relocate f) [.equals, .hash] =
      blockingMethod c [.equals, .hash] := rfl
  unfold checkEquality
  rw [hoptions, hplain, hblocking, checkMarks_relocate]
  cases c.annotations.equality with
  | none => rfl
  | some options =>
    dsimp only
    split
    · rfl
    · cases blockingMethod c [.equals, .hash] with
      | some problem => rfl
      | none =>
        dsimp only
        rw [← Report.conclude_relocate, relocate_append, relocate_ite]
        rfl

theorem checkPrinting_relocate : checkPrinting (c.relocate f) = (checkPrinting c).relocate f := by
  have hoptions : (c.relocate f).annotations.printing = c.annotations.printing := rfl
  have hprintable : printable (c.relocate f) = printable c := rfl
  have hblocking : blockingMethod (c.relocate f) [.print] = blockingMethod c [.print] := rfl
  unfold checkPrinting
  rw [hoptions, hprintable, hblocking]
  cases c.annotations.printing with
  | none => rfl
  | some options =>
    dsimp only
    split
    · rfl
    · cases blockingMethod c [.print] with
      | some problem => rfl
      | none =>
        dsimp only
        rw [← Report.conclude_relocate, relocate_ite]
        rfl

theorem isStoredProperty_relocate (p : Parameter) :
    isStoredProperty (c.relocate f) (p.relocate f) = isStoredProperty c p := by
  unfold isStoredProperty
  rw [c.property?_relocate, Option.any_map]
  rfl

theorem shapeProblem_relocate :
    shapeProblem (c.relocate f) (b.relocate f) =
      (shapeProblem c b).map (Diagnostic.relocate f) := by
  have hplain : (c.relocate f).isPlainRegular = c.isPlainRegular := rfl
  have hfind : (c.params.map (Parameter.relocate f)).find?
        (fun p => !isStoredProperty (c.relocate f) p) =
      (c.params.find? fun p => !isStoredProperty c p).map (Parameter.relocate f) := by
    rw [List.find?_map]
    simp only [Function.comp_def, isStoredProperty_relocate]
  unfold shapeProblem
  rw [hplain, c.params_relocate, hfind]
  simp only [List.map_eq_nil_iff, apply_ite (Option.map (Diagnostic.relocate f)), Option.map_map]
  rfl

theorem checkBuild_relocate (m : BuilderMethod) :
    checkBuild (c.relocate f) (m.relocate f) = (checkBuild c m).relocate f := by
  unfold checkBuild
  rw [relocate_ite]
  rfl

theorem checkSetter_relocate (p : Parameter) (m : BuilderMethod) :
    checkSetter (b.relocate f) (p.relocate f) (m.relocate f) = (checkSetter b p m).relocate f := by
  unfold checkSetter
  rw [relocate_ite]
  refine ite_congr rfl (fun _ => rfl) fun _ => ?_
  have hparams : (m.relocate f).params = m.params := rfl
  rw [hparams]
  rcases m.params with _ | ⟨type, _ | ⟨other, types⟩⟩
  · rfl
  · dsimp only
    rw [relocate_ite]
    rfl
  · rfl

theorem checkMethod_relocate (strictness : Strictness) (m : BuilderMethod) :
    checkMethod (c.relocate f) (b.relocate f) strictness (m.relocate f) =
      (checkMethod c b strictness m).relocate f := by
  have hname : (m.relocate f).name = m.name := rfl
  have hfind : (c.params.map (Parameter.relocate f)).find? (·.name = m.name) =
      (c.params.find? (·.name = m.name)).map (Parameter.relocate f) := List.find?_map
  unfold checkMethod
  rw [relocate_ite, checkBuild_relocate, c.params_relocate, hname, hfind]
  refine ite_congr rfl (fun _ => rfl) fun _ => ?_
  cases c.params.find? (·.name = m.name) with
  | some p => exact checkSetter_relocate f b p m
  | none => cases strictness <;> rfl

theorem checkMethods_relocate (strictness : Strictness) :
    checkMethods (c.relocate f) (b.relocate f) strictness =
      (checkMethods c b strictness).relocate f := by
  have hmethods : (b.relocate f).methods = b.methods.map (BuilderMethod.relocate f) := rfl
  have hmissing (p : Parameter) : checkMissingSetter (b.relocate f) (p.relocate f) =
      (checkMissingSetter b p).relocate f := by
    unfold checkMissingSetter
    rw [relocate_ite, ← b.isNone_method?_relocate f]
    rfl
  unfold checkMethods
  rw [hmethods, c.params_relocate, b.isNone_method?_relocate f]
  simp only [relocate_append, relocate_flatMap, relocate_ite, List.flatMap_map,
    checkMethod_relocate, hmissing]
  rfl

theorem checkBuilding_relocate (strictness : Strictness) :
    checkBuilding (c.relocate f) strictness = (checkBuilding c strictness).relocate f := by
  have hbuilder : (c.relocate f).builder = c.builder.map (BuilderDecl.relocate f) := rfl
  have hmark : (c.relocate f).annotations.buildable = c.annotations.buildable := rfl
  unfold checkBuilding
  rw [hbuilder, hmark]
  cases c.builder with
  | none =>
    cases c.annotations.buildable with
    | false => rfl
    | true => rfl
  | some b =>
    cases c.annotations.buildable with
    | false => rfl
    | true =>
      dsimp only [Option.map_some]
      rw [shapeProblem_relocate, checkMethods_relocate, ← Report.conclude_relocate]
      cases shapeProblem c b <;> rfl

end Readiness

theorem checkFamily_relocate (c : ClassDecl) (strictness : Strictness) (family : Family) :
    checkFamily (c.relocate f) strictness family =
      (checkFamily c strictness family).relocate f := by
  cases family with
  | equality => exact Readiness.checkEquality_relocate f c
  | printing => exact Readiness.checkPrinting_relocate f c
  | building => exact Readiness.checkBuilding_relocate f c strictness

theorem checkClass_relocate (c : ClassDecl) (strictness : Strictness) :
    checkClass (c.relocate f) strictness = (checkClass c strictness).relocate f := by
  unfold checkClass
  rw [Diagnostics.relocate_flatMap]
  simp only [checkFamily_relocate]
  rfl

end Memberwise

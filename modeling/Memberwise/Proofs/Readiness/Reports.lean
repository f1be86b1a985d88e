import Memberwise.Readiness.Check

/-!
# Verdicts and diagnostics

The verdict of a report and its diagnostics say the same: a family is rejected where an error is
reported and nowhere else, and nothing is reported on a family that was not asked for.
-/

namespace Memberwise

/-- A report on the family whose verdict goes with its diagnostics. -/
structure Report.Coherent (r : Report) (family : Family) : Prop where
  family_eq : r.family = family
  rejected_iff : r.verdict = .rejected ↔ r.diagnostics.hasErrors = true
  silent : r.verdict = .notRequested → r.diagnostics = []

namespace Diagnostics

@[simp]
theorem hasErrors_nil : hasErrors [] = false := rfl

@[simp]
theorem hasErrors_append (ds es : Diagnostics) :
    hasErrors (ds ++ es) = (ds.hasErrors || es.hasErrors) := List.any_append

@[simp]
theorem hasErrors_report_error (problem : Problem) (location : Location) :
    hasErrors [problem.report .error location] = true := rfl

theorem hasErrors_flatMap_eq_false {α : Type} {check : α → Diagnostics} {as : List α} :
    hasErrors (as.flatMap check) = false ↔ ∀ a ∈ as, (check a).hasErrors = false := by
  simp only [hasErrors, List.any_flatMap, List.any_eq_false, Bool.not_eq_true]

end Diagnostics

namespace Report

theorem coherent_notRequested (family : Family) : (notRequested family).Coherent family where
  family_eq := rfl
  rejected_iff := by simp [notRequested, Diagnostics.hasErrors]
  silent _ := rfl

theorem coherent_skipped (family : Family) {ds : Diagnostics} (hds : ds.hasErrors = false) :
    (skipped family ds).Coherent family where
  family_eq := rfl
  rejected_iff := by simp [skipped, hds]
  silent hverdict := by cases hverdict

theorem coherent_conclude (family : Family) (ds : Diagnostics) :
    (conclude family ds).Coherent family := by
  cases hds : ds.hasErrors with
  | true => exact ⟨rfl, by simp [conclude, hds], by simp [conclude, hds]⟩
  | false => exact ⟨rfl, by simp [conclude, hds], by simp [conclude, hds]⟩

theorem ready_conclude_iff {family : Family} {ds : Diagnostics} :
    (conclude family ds).verdict = .ready ↔ ds.hasErrors = false := by
  cases hds : ds.hasErrors <;> simp [conclude, hds]

/-- What is concluded from diagnostics is always one of two verdicts. -/
theorem conclude_ne {family : Family} {ds : Diagnostics} {verdict : Verdict}
    (hrejected : verdict ≠ .rejected) (hready : verdict ≠ .ready) :
    (conclude family ds).verdict ≠ verdict := by
  cases hds : ds.hasErrors with
  | true => simpa [conclude, hds] using hrejected.symm
  | false => simpa [conclude, hds] using hready.symm

end Report

theorem hasErrors_report_of_ne {severity : Severity} (hne : severity ≠ .error) (problem : Problem)
    (location : Location) : Diagnostics.hasErrors [problem.report severity location] = false := by
  simp [Diagnostics.hasErrors, Diagnostic.isError, Problem.report, hne]

namespace Readiness

open Report

theorem coherent_checkEquality (c : ClassDecl) : (checkEquality c).Coherent .equality := by
  unfold checkEquality
  split
  · exact coherent_notRequested _
  · split
    · exact coherent_conclude _ _
    · split
      · exact coherent_skipped _ (hasErrors_report_of_ne (by decide) _ _)
      · exact coherent_conclude _ _

theorem coherent_checkPrinting (c : ClassDecl) : (checkPrinting c).Coherent .printing := by
  unfold checkPrinting
  split
  · exact coherent_notRequested _
  · split
    · exact coherent_conclude _ _
    · split
      · exact coherent_skipped _ (hasErrors_report_of_ne (by decide) _ _)
      · exact coherent_conclude _ _

theorem coherent_checkBuilding (c : ClassDecl) (strictness : Strictness) :
    (checkBuilding c strictness).Coherent .building := by
  unfold checkBuilding
  split
  · exact coherent_notRequested _
  · exact coherent_conclude _ _
  · exact coherent_conclude _ _
  · exact coherent_conclude _ _

end Readiness

theorem coherent_checkFamily (c : ClassDecl) (strictness : Strictness) (family : Family) :
    (checkFamily c strictness family).Coherent family := by
  cases family with
  | equality => exact Readiness.coherent_checkEquality c
  | printing => exact Readiness.coherent_checkPrinting c
  | building => exact Readiness.coherent_checkBuilding c strictness

theorem Family.mem_all (family : Family) : family ∈ Family.all := by
  cases family <;> decide

theorem hasErrors_checkClass_iff {c : ClassDecl} {strictness : Strictness} :
    (checkClass c strictness).hasErrors = true ↔
      ∃ family, (checkFamily c strictness family).verdict = .rejected := by
  simp only [(coherent_checkFamily c strictness _).rejected_iff, Diagnostics.hasErrors, checkClass,
    List.any_flatMap, List.any_eq_true]
  constructor
  · rintro ⟨family, -, herrors⟩
    exact ⟨family, herrors⟩
  · rintro ⟨family, herrors⟩
    exact ⟨family, family.mem_all, herrors⟩

end Memberwise

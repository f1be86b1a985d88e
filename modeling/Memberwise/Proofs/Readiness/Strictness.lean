import Mathlib.Data.List.Forall2
import Memberwise.Proofs.Engine.Agreement
import Memberwise.Proofs.Readiness.Building

/-!
# Lenient and strict

The strictness says how bad an unrecognized method of a builder is and nothing else. Both checks
report in the same places; the strict one turns the warnings on such methods into errors, so that
it refuses more, and what it lets through is made in the same way.
-/

namespace Memberwise

/-- What stands for a diagnostic of the lenient check in the strict one: the same diagnostic, or
for an unrecognized method an error in place of the warning, no longer said to be ignored. -/
structure Diagnostic.Stiffens (lenient strict : Diagnostic) : Prop where
  code_eq : strict.code = lenient.code
  location_eq : strict.location = lenient.location
  same : lenient.code ≠ .builderUnrecognizedMethod → strict = lenient
  severity_eq : lenient.code = .builderUnrecognizedMethod →
    lenient.severity = .warning ∧ strict.severity = .error
  message_eq : lenient.code = .builderUnrecognizedMethod →
    lenient.message = strict.message ++ " and is ignored"

def ClassDecl.Recognizes (c : ClassDecl) (m : BuilderMethod) : Prop :=
  m.name = buildMethod ∨ ∃ p ∈ c.params, p.name = m.name

namespace Readiness

open Diagnostic (Stiffens)

variable {c : ClassDecl} {b : BuilderDecl}

theorem stiffens_self {d : Diagnostic} (hcode : d.code ≠ .builderUnrecognizedMethod) :
    d.Stiffens d :=
  ⟨rfl, rfl, fun _ => rfl, fun h => absurd h hcode, fun h => absurd h hcode⟩

theorem forall₂_stiffens_self {ds : Diagnostics}
    (hcode : ∀ d ∈ ds, d.code ≠ .builderUnrecognizedMethod) : List.Forall₂ Stiffens ds ds :=
  List.forall₂_same.mpr fun d hd => stiffens_self (hcode d hd)

theorem forall₂_flatMap {α : Type} {f g : α → Diagnostics}
    (h : ∀ a, List.Forall₂ Stiffens (f a) (g a)) (as : List α) :
    List.Forall₂ Stiffens (as.flatMap f) (as.flatMap g) := by
  induction as with
  | nil => exact .nil
  | cons a as ih => exact List.rel_append (h a) ih

theorem code_checkBuild {m : BuilderMethod} {d : Diagnostic} (hd : d ∈ checkBuild c m) :
    d.code = .builderInvalidMethodSignature := by
  unfold checkBuild at hd
  split at hd
  · obtain rfl := List.mem_singleton.mp hd
    rfl
  · cases hd

theorem code_checkSetter {p : Parameter} {m : BuilderMethod} {d : Diagnostic}
    (hd : d ∈ checkSetter b p m) : d.code = .builderInvalidMethodSignature := by
  unfold checkSetter at hd
  split at hd
  · obtain rfl := List.mem_singleton.mp hd
    rfl
  · split at hd
    · split at hd
      · obtain rfl := List.mem_singleton.mp hd
        rfl
      · cases hd
    · obtain rfl := List.mem_singleton.mp hd
      rfl

theorem code_missing {isMissing : Bool} {problem : Problem} {location : Location}
    (hproblem : problem.code = .builderMissingMethod) {d : Diagnostic}
    (hd : d ∈ if isMissing then [problem.report .error location] else []) :
    d.code = .builderMissingMethod := by
  split at hd
  · obtain rfl := List.mem_singleton.mp hd
    exact hproblem
  · cases hd

theorem code_shapeProblem {d : Diagnostic} (hproblem : shapeProblem c b = some d) :
    d.code ≠ .builderUnrecognizedMethod := by
  unfold shapeProblem at hproblem
  split at hproblem
  · cases hproblem
    exact nofun
  · split at hproblem
    · cases hproblem
      exact nofun
    · split at hproblem
      · cases hproblem
        exact nofun
      · obtain ⟨p, -, rfl⟩ := Option.map_eq_some_iff.mp hproblem
        exact nofun

theorem checkMethod_stiffens (m : BuilderMethod) :
    List.Forall₂ Stiffens (checkMethod c b .lenient m) (checkMethod c b .strict m) := by
  unfold checkMethod
  split
  · exact forall₂_stiffens_self fun d hd => by rw [code_checkBuild hd]; exact nofun
  · split
    · exact forall₂_stiffens_self fun d hd => by rw [code_checkSetter hd]; exact nofun
    · exact .cons ⟨rfl, rfl, fun h => absurd rfl h, fun _ => ⟨rfl, rfl⟩, fun _ => rfl⟩ .nil

theorem checkMethods_stiffens :
    List.Forall₂ Stiffens (checkMethods c b .lenient) (checkMethods c b .strict) := by
  refine List.rel_append (List.rel_append (forall₂_flatMap checkMethod_stiffens _) ?_) ?_
  · refine forall₂_flatMap (fun p => forall₂_stiffens_self fun d hd => ?_) _
    rw [code_missing rfl hd]
    exact nofun
  · refine forall₂_stiffens_self fun d hd => ?_
    rw [code_missing rfl hd]
    exact nofun

theorem checkBuilding_stiffens (c : ClassDecl) :
    List.Forall₂ Stiffens (checkBuilding c .lenient).diagnostics
      (checkBuilding c .strict).diagnostics := by
  unfold checkBuilding
  split
  · exact .nil
  · exact .cons (stiffens_self nofun) .nil
  · exact .cons (stiffens_self nofun) .nil
  · rename_i b _ _
    cases hproblem : shapeProblem c b with
    | some d => exact .cons (stiffens_self (code_shapeProblem hproblem)) .nil
    | none => exact checkMethods_stiffens

theorem hasErrors_checkMethod_strict {m : BuilderMethod} :
    (checkMethod c b .strict m).hasErrors = false ↔
      (checkMethod c b .lenient m).hasErrors = false ∧ c.Recognizes m := by
  unfold checkMethod ClassDecl.Recognizes
  by_cases hname : m.name = buildMethod
  · simp [hname]
  · simp only [hname, if_false, false_or]
    cases hfind : c.params.find? (·.name = m.name) with
    | some p =>
      have hp : p ∈ c.params := List.mem_of_find?_eq_some hfind
      have hpname : p.name = m.name := by simpa using List.find?_some hfind
      exact (and_iff_left ⟨p, hp, hpname⟩).symm
    | none =>
      have hnone : ¬ ∃ p ∈ c.params, p.name = m.name := by
        simpa using List.find?_eq_none.mp hfind
      simp [hasErrors_checkUnrecognized, hnone]

theorem hasErrors_checkMethods_strict :
    (checkMethods c b .strict).hasErrors = false ↔
      (checkMethods c b .lenient).hasErrors = false ∧ ∀ m ∈ b.methods, c.Recognizes m := by
  simp only [checkMethods, Diagnostics.hasErrors_append, Bool.or_eq_false_iff,
    Diagnostics.hasErrors_flatMap_eq_false, hasErrors_checkMethod_strict, forall_and]
  tauto

theorem exists_marked_builder_of_ready (strictness : Strictness)
    (hready : (checkBuilding c strictness).verdict = .ready) :
    c.annotations.buildable = true ∧ ∃ b, c.builder = some b := by
  unfold checkBuilding at hready
  cases hbuilder : c.builder <;> cases hmark : c.annotations.buildable <;>
    simp_all [Report.notRequested, Report.ready_conclude_iff]

theorem ready_strict_iff :
    (checkBuilding c .strict).verdict = .ready ↔
      (checkBuilding c .lenient).verdict = .ready ∧
        ∀ b, c.builder = some b → ∀ m ∈ b.methods, c.Recognizes m := by
  have hiff {b : BuilderDecl} (hmark : c.annotations.buildable = true)
      (hbuilder : c.builder = some b) :
      (checkBuilding c .strict).verdict = .ready ↔
        (checkBuilding c .lenient).verdict = .ready ∧ ∀ m ∈ b.methods, c.Recognizes m := by
    rw [ready_of_builder_iff hmark hbuilder, ready_of_builder_iff hmark hbuilder,
      hasErrors_checkMethods_strict, and_assoc]
  constructor
  · intro hready
    obtain ⟨hmark, b, hbuilder⟩ := exists_marked_builder_of_ready .strict hready
    obtain ⟨hlenient, hmethods⟩ := (hiff hmark hbuilder).mp hready
    refine ⟨hlenient, ?_⟩
    intro b' hb'
    cases hbuilder.symm.trans hb'
    exact hmethods
  · rintro ⟨hlenient, hmethods⟩
    obtain ⟨hmark, b, hbuilder⟩ := exists_marked_builder_of_ready .lenient hlenient
    exact (hiff hmark hbuilder).mpr ⟨hlenient, hmethods b hbuilder⟩

/-- Of the two verdicts on building, only readiness depends on the strictness. -/
theorem verdict_ne_iff :
    (checkBuilding c .strict).verdict ≠ (checkBuilding c .lenient).verdict ↔
      (checkBuilding c .lenient).verdict = .ready ∧
        (checkBuilding c .strict).verdict = .rejected := by
  have hnot : (checkBuilding c .strict).verdict = .notRequested ↔
      (checkBuilding c .lenient).verdict = .notRequested := by
    rw [notRequested_checkBuilding_iff, notRequested_checkBuilding_iff]
  have hready : (checkBuilding c .strict).verdict = .ready →
      (checkBuilding c .lenient).verdict = .ready := fun h => (ready_strict_iff.mp h).1
  have hlenient : (checkBuilding c .lenient).verdict ≠ .skipped := checkBuilding_ne_skipped
  have hstrict : (checkBuilding c .strict).verdict ≠ .skipped := checkBuilding_ne_skipped
  revert hnot hready hlenient hstrict
  cases (checkBuilding c .strict).verdict <;> cases (checkBuilding c .lenient).verdict <;> simp

theorem verdict_ne_iff_exists :
    (checkBuilding c .strict).verdict ≠ (checkBuilding c .lenient).verdict ↔
      (checkBuilding c .lenient).verdict = .ready ∧
        ∃ b, c.builder = some b ∧ ∃ m ∈ b.methods, ¬ c.Recognizes m := by
  have hrefused : (checkBuilding c .strict).verdict ≠ .ready →
      (checkBuilding c .lenient).verdict = .ready →
      ∃ b, c.builder = some b ∧ ∃ m ∈ b.methods, ¬ c.Recognizes m := by
    intro hstrict hlenient
    rw [ne_eq, ready_strict_iff] at hstrict
    simpa [hlenient] using hstrict
  constructor
  · intro hne
    obtain ⟨hlenient, hstrict⟩ := verdict_ne_iff.mp hne
    exact ⟨hlenient, hrefused (by rw [hstrict]; exact nofun) hlenient⟩
  · rintro ⟨hlenient, b, hbuilder, m, hm, hnot⟩ heq
    exact hnot ((ready_strict_iff.mp (heq.trans hlenient)).2 b hbuilder m hm)

end Readiness

theorem ready_lenient_of_strict {c : ClassDecl} {family : Family}
    (hready : (checkFamily c .strict family).verdict = .ready) :
    (checkFamily c .lenient family).verdict = .ready := by
  cases family with
  | equality | printing => exact hready
  | building => exact (Readiness.ready_strict_iff.mp hready).1

section Synthesis

variable {c : ClassDecl} {member : Member}

theorem isReady_lenient_of_strict {family : Family}
    (hready : (checkFamily c .strict family).isReady = true) :
    (checkFamily c .lenient family).isReady = true :=
  decide_eq_true (ready_lenient_of_strict (of_decide_eq_true hready))

theorem freshAnswer_lenient_of_strict {x : Method} (hx : freshAnswer .strict c member = .ok x) :
    freshAnswer .lenient c member = .ok x := by
  have hoffered : Offered .strict c member := exists_freshAnswer_iff.mp ⟨x, hx⟩
  rw [freshAnswer_of_ready hoffered.1] at hx
  rw [freshAnswer_of_ready (isReady_lenient_of_strict hoffered.1), hx]

/-- A family is synthesized alike or, under the strict check, not at all. -/
theorem freshFamily_sublist (c : ClassDecl) (family : Family) :
    (freshFamily .strict c family).Sublist (freshFamily .lenient c family) := by
  unfold freshFamily
  split
  · rename_i hready
    rw [if_pos (isReady_lenient_of_strict hready)]
  · exact List.nil_sublist _

theorem fresh_sublist (c : ClassDecl) :
    (ClassSynthesis.fresh .strict c).methods.Sublist (ClassSynthesis.fresh .lenient c).methods :=
  ((freshFamily_sublist c .equality).append (freshFamily_sublist c .printing)).append
    (freshFamily_sublist c .building)

theorem builder_fresh_lenient_of_strict {plan : BuilderPlan}
    (hplan : (ClassSynthesis.fresh .strict c).builder = some plan) :
    (ClassSynthesis.fresh .lenient c).builder = some plan := by
  unfold ClassSynthesis.fresh at hplan ⊢
  dsimp only at hplan ⊢
  split at hplan
  · rename_i hready
    rw [if_pos (isReady_lenient_of_strict hready), hplan]
  · cases hplan

end Synthesis

namespace Engine

/-- What a strict engine says of a class, compared with what a lenient one says. -/
structure Stricter (lenient strict : Engine) (c : ClassDecl) : Prop where
  equality : strict.check c .equality = lenient.check c .equality
  printing : strict.check c .printing = lenient.check c .printing
  building : List.Forall₂ Diagnostic.Stiffens (lenient.check c .building).diagnostics
    (strict.check c .building).diagnostics
  ready : ∀ family, (strict.check c family).verdict = .ready →
    (lenient.check c family).verdict = .ready
  differ_iff : (strict.check c .building).verdict ≠ (lenient.check c .building).verdict ↔
    (lenient.check c .building).verdict = .ready ∧
      ∃ b, c.builder = some b ∧ ∃ m ∈ b.methods, ¬ c.Recognizes m
  names : strict.names c ⊆ lenient.names c
  member : ∀ member x, (strict.synthesize member c).1 = .ok x →
    (lenient.synthesize member c).1 = .ok x
  methods : (strict.synthesizeClass c).1.methods.Sublist (lenient.synthesizeClass c).1.methods
  plan : ∀ plan, (strict.builderPlan c).1 = .ok plan → (lenient.builderPlan c).1 = .ok plan

theorem Reachable.stricter {lenient strict : Engine} (hl : lenient.Reachable)
    (hs : strict.Reachable) (hlenient : lenient.strictness = .lenient)
    (hstrict : strict.strictness = .strict) (c : ClassDecl) : Stricter lenient strict c where
  equality := rfl
  printing := rfl
  building := by
    rw [Engine.check, Engine.check, hlenient, hstrict]
    exact Readiness.checkBuilding_stiffens c
  ready family := by
    rw [Engine.check, Engine.check, hlenient, hstrict]
    exact ready_lenient_of_strict
  differ_iff := by
    rw [Engine.check, Engine.check, hlenient, hstrict]
    exact Readiness.verdict_ne_iff_exists
  names member hmember := by
    rw [mem_names_iff, hstrict] at hmember
    rw [mem_names_iff, hlenient]
    exact ⟨isReady_lenient_of_strict hmember.1, hmember.2⟩
  member member x hx := by
    rw [hs.synthesize_fst, hstrict] at hx
    rw [hl.synthesize_fst, hlenient]
    exact freshAnswer_lenient_of_strict hx
  methods := by
    rw [hs.synthesizeClass_fst, hl.synthesizeClass_fst, hstrict, hlenient]
    exact fresh_sublist c
  plan plan hplan := by
    rw [builderPlan_eq_ok_iff, hstrict] at hplan
    rw [builderPlan_eq_ok_iff, hlenient]
    exact builder_fresh_lenient_of_strict hplan

/-- Strictness only refuses more, whatever two engines have done before. -/
theorem after_stricter (history history' : List Operation) (c : ClassDecl) :
    Stricter (after ⟨⟨.lenient⟩⟩ history) (after ⟨⟨.strict⟩⟩ history') c :=
  (reachable_after _ history).stricter (reachable_after _ history') (strictness_after _ history)
    (strictness_after _ history') c

end Engine

end Memberwise

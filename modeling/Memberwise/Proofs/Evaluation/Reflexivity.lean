import Memberwise.Proofs.Evaluation.Termination

/-!
# Reflexivity of equality

An object equals itself whatever its fields hold. The superclass is asked before anything else, but
up to the root every class is asked for the same object twice, and no property is read on the way.
Only a cycle among the superclasses could keep this from ending.
-/

namespace Memberwise

open Eval

namespace IsProgram

variable {ss : List ClassSynthesis} (hss : IsProgram ss)

include hss

theorem equatesFrom_self {rank : Option ClassName → Nat}
    (hrank : ∀ cls cls', (Machine.holding ss).isSubclass cls cls' = true →
      rank ((Machine.holding ss).parents.get? cls') < rank (some cls))
    (h : Heap) {depth : Nat} {start : Option ClassName} (this : ObjectRef)
    (hdepth : rank start < depth) :
    (Machine.holding ss).EquatesFrom h depth start this (.object this) := by
  induction depth generalizing start with
  | zero => exact absurd hdepth (Nat.not_lt_zero _)
  | succ depth ih =>
    rcases hss.comparesFrom_or_none start with ⟨hnone, -⟩ | ⟨c, options, hc⟩
    · exact (equatesFrom_of_none hnone).mpr rfl
    · -- the superclass is asked for the same object, and identity settles the rest
      refine (hss.equatesFrom_succ hc).mpr ⟨fun _ => ih ?_, .inl rfl⟩
      obtain ⟨cls, rfl, -⟩ := Option.bind_eq_some_iff.mp hc.equals
      have hless := hrank cls c.name (hc.above cls rfl)
      rw [hc.compares.parent] at hless
      omega

/-- One bound on the depth of calls is enough for all values. -/
theorem exists_equates_self (hclasses : (Machine.holding ss).Acyclic) :
    ∃ depth, ∀ h a, (Machine.holding ss).Equates h depth a a := by
  obtain ⟨rank, hbound, hrank⟩ := hclasses.exists_rank
  refine ⟨(Machine.holding ss).parents.size + 2, fun h a => ?_⟩
  cases a with
  | object r =>
    have hdepth := Nat.lt_succ_of_le (hbound (some r.cls))
    exact equates_object.mpr (hss.equatesFrom_self hrank h r hdepth)
  | _ => exact (equates_of_ne_object (by simp)).mpr rfl

/-- On every heap, every value equals itself. -/
theorem equals_self (hclasses : (Machine.holding ss).Acyclic) (h : Heap) (a : Value) :
    Ends ((Machine.holding ss).equals · a a) h (.ok true) h := by
  obtain ⟨rank, -, hrank⟩ := hclasses.exists_rank
  cases a with
  | object r =>
    refine ⟨rank (some r.cls) + 1, equates_object.mpr ?_⟩
    exact hss.equatesFrom_self hrank h r (Nat.lt_succ_self _)
  | _ => exact ⟨0, (equates_of_ne_object (by simp)).mpr rfl⟩

end IsProgram

namespace Route

def circle : ObjectRef := ⟨1, terminus.name⟩

def circular : Heap := ⟨[.object (.ofList [("loop", .object circle)])]⟩

end Route

/-- The call of the superclass passes a class without equality and ends at the root. -/
theorem IsProgram.equals_self_route :
    ¬ Route.circular.Acyclic ∧
      Ends ((Machine.holding Route.program).equals · (.object Route.circle) (.object Route.circle))
        Route.circular (.ok true) Route.circular := by
  constructor
  · intro hacyclic
    exact hacyclic Route.circle (.single ⟨"loop", rfl⟩)
  · exact Route.isProgram.equals_self Route.acyclic Route.circular (.object Route.circle)

end Memberwise

import Memberwise.Proofs.Evaluation.Faults
import Memberwise.Proofs.Machine.Acyclic

/-!
# Termination on acyclic data

Each nested call goes up the superclasses with the same object or on to an object in one of its
fields, where the superclasses start again. Without cycles among either, a bound on the depth of
calls can be named that is never reached.
-/

namespace Memberwise

open Eval

theorem SteadyReads.of_univ (ss : List ClassSynthesis) (family : Family) (h : Heap) :
    SteadyReads ss family h h Set.univ {halt | halt ≠ .tooDeep} where
  closed _ _ _ _ _ _ _ := trivial
  read _ _ := .read rfl fun _ _ => nofun

namespace IsProgram

variable {ss : List ClassSynthesis} (hss : IsProgram ss) {h : Heap}

/-- Objects count for more than all the superclasses of one together. -/
theorem exists_suffices (hclasses : (Machine.holding ss).Acyclic) (hheap : h.Acyclic)
    (member : Member) :
    ∃ size : Option ClassName → ObjectRef → Nat,
      Suffices ss member h {halt | halt ≠ .tooDeep}
        fun depth start this => size start this < depth := by
  obtain ⟨classRank, hbound, hclass⟩ := hclasses.exists_rank
  obtain ⟨objectRank, hobject⟩ := hheap.exists_rank
  set width := (Machine.holding ss).parents.size + 2 with hwidth
  refine ⟨fun start this => objectRank this * width + classRank start, ?_, ?_, ?_⟩
  · intro start this hdepth
    exact absurd hdepth (Nat.not_lt_zero _)
  · -- up the superclasses the object is the same
    intro depth start c this hc hdepth
    obtain ⟨cls, rfl, habove⟩ := hc.above
    have hless := hclass cls c.name habove
    rw [hc.parent] at hless
    dsimp only at hdepth ⊢
    omega
  · -- what the superclasses of the next object need is less than one step between objects
    intro depth start this s p hdepth hlook
    have hless : objectRank s + 1 ≤ objectRank this :=
      hobject this s ⟨p.name, Heap.get?_of_look hlook⟩
    have hscale : (objectRank s + 1) * width ≤ objectRank this * width :=
      Nat.mul_le_mul_right width hless
    have hclasses := hbound (some s.cls)
    rw [Nat.succ_mul] at hscale
    dsimp only at hdepth ⊢
    omega

include hss

theorem exists_ends_of_acyclic (hclasses : (Machine.holding ss).Acyclic) (hheap : h.Acyclic)
    {member : Member} {α : Type} {ask : Call → Option ClassName → ObjectRef → Value → Eval α}
    {via : Call → Value → Value → Eval α} (hq : Inquiry ss member ask via) (v w : Value) :
    ∃ r, Ends (fun depth => via ((Machine.holding ss).invoke depth) v w) h r h := by
  obtain ⟨size, hsize⟩ := exists_suffices hclasses hheap member
  have hdepth : ∃ depth, ∀ r, v = .object r → size (some r.cls) r < depth := by
    cases v with
    | object r =>
      refine ⟨size (some r.cls) r + 1, ?_⟩
      rintro _ ⟨⟩
      exact Nat.lt_succ_self _
    | _ => exact ⟨0, nofun⟩
  obtain ⟨depth, hdepth⟩ := hdepth
  have hsteady := hq.steady_via hss (w := w) (.of_univ ss member.family h) hsize
    (fun _ _ => trivial) (fun _ _ => trivial) hdepth
  exact exists_ends_of_steady hsteady

/-- Where neither superclasses nor references between objects form a cycle, equality, hash and
printed form of all values come to an end, and leave the heap as it was. -/
theorem ends_of_acyclic (hclasses : (Machine.holding ss).Acyclic) (hheap : h.Acyclic)
    (a b : Value) :
    let m := Machine.holding ss
    (∃ r, Ends (m.equals · a b) h r h) ∧ (∃ r, Ends (m.hash · a) h r h) ∧
      ∃ r, Ends (m.print · a) h r h := by
  refine ⟨?_, ?_, ?_⟩
  · exact hss.exists_ends_of_acyclic hclasses hheap equals_inquiry a b
  · exact hss.exists_ends_of_acyclic hclasses hheap hash_inquiry a a
  · exact hss.exists_ends_of_acyclic hclasses hheap hss.print_inquiry a a

end IsProgram

namespace Route

theorem acyclic : (Machine.holding program).Acyclic :=
  Machine.acyclic_of_rank (fun cls => if cls = place.name then 0 else 1) (by decide)

end Route

/-- The first stop refers to the last one, which refers to none. -/
theorem IsProgram.ends_of_acyclic_route :
    let m := Machine.holding Route.program
    (∃ r, Ends (m.equals · (.object Route.first) (.object Route.nameless)) Route.heap r
      Route.heap) ∧
    (∃ r, Ends (m.hash · (.object Route.first)) Route.heap r Route.heap) ∧
    ∃ r, Ends (m.print · (.object Route.first)) Route.heap r Route.heap :=
  Route.isProgram.ends_of_acyclic Route.acyclic (Heap.acyclic_of_refersToOlder (by decide)) _ _

end Memberwise

import Memberwise.Proofs.Evaluation.Reflexivity
import Memberwise.Proofs.Printing.Runs

/-!
# Objects that hold the same

Two objects of one class with the same fields differ in their addresses alone. A class that answers
without asking its superclass reads properties only, so that the two are equal and have one hash and
one printed form. Where the superclass is asked, the root may answer, which looks at the address.
-/

namespace Memberwise

open Eval

/-- Of one class, and with the same in every field. -/
structure Heap.Twins (h : Heap) (r s : ObjectRef) : Prop where
  cls : r.cls = s.cls
  get? : ∀ name, h.get? r name = h.get? s name

namespace Heap.Twins

variable {h : Heap} {r s : ObjectRef} (htwins : h.Twins r s)

include htwins

theorem symm : h.Twins s r := ⟨htwins.cls.symm, fun name => (htwins.get? name).symm⟩

theorem guarded (p : Property) : h.guarded r p = h.guarded s p := by
  rw [Heap.guarded, Heap.guarded, htwins.get?, htwins.cls]

theorem read (name : String) : h.read r name = h.read s name := by
  rw [Heap.read, Heap.read, htwins.get?, htwins.cls]

variable {m : Machine} {call : Call}

theorem on_foldHashVia (hvia : ∀ v, Quiet (m.hashVia call v)) (ps : List Participant)
    (x : Int32) : (m.foldHashVia call r ps x).on h = (m.foldHashVia call s ps x).on h := by
  induction ps generalizing x with
  | nil => rfl
  | cons p ps ih =>
    refine (Quiet.read _).on_bind_congr ?_ fun v => (hvia v).on_bind_congr rfl fun y => ih _
    rw [on_read, on_read, htwins.guarded]

theorem on_ownSegments (hvia : ∀ v, Quiet (m.printVia call v)) (ps : List Participant) :
    (ps.mapM (m.ownSegment call r)).on h = (ps.mapM (m.ownSegment call s)).on h := by
  refine Quiet.on_mapM_congr (m.quiet_ownSegment hvia r) (fun p => ?_) ps
  refine (Quiet.read _).on_bind_congr ?_ fun v => rfl
  rw [on_read, on_read, htwins.read]

end Heap.Twins

namespace IsProgram

variable {ss : List ClassSynthesis} (hss : IsProgram ss) {h : Heap} {r s : ObjectRef}
  (htwins : h.Twins r s) {c : ClassDecl}

include hss htwins

/-- Twins are equal as soon as the properties that take part can be read. -/
theorem exists_equates_of_twins (hclasses : (Machine.holding ss).Acyclic)
    {options : EqualityOptions} (hc : (Machine.holding ss).ComparesFrom (some r.cls) c options)
    (hcall : options.callSuper = false)
    (hread : ∀ p ∈ c.participants .equality, ∃ v, h.guarded r p.property = .ok v) :
    ∃ depth, (Machine.holding ss).Equates h depth (.object r) (.object s) := by
  obtain ⟨depth, hself⟩ := hss.exists_equates_self hclasses
  refine ⟨depth + 1, equates_object.mpr ((hss.equatesFrom_succ hc).mpr ⟨?_, .inr ?_⟩)⟩
  · rw [hcall]
    exact nofun
  · refine ⟨s, rfl, htwins.cls ▸ hc.above r.cls rfl, fun p hp => ?_⟩
    obtain ⟨v, hv⟩ := hread p hp
    exact ⟨v, v, hv, htwins.guarded p.property ▸ hv, hself h v⟩

theorem on_hash_of_twins {options : EqualityOptions}
    (hbody : (Machine.holding ss).lookupFrom (some r.cls) .hash = some (c.hashMethod options).body)
    (hcall : options.callSuper = false) (depth : Nat) :
    ((Machine.holding ss).hash depth (.object r)).on h =
      ((Machine.holding ss).hash depth (.object s)).on h := by
  rw [Machine.hash, Machine.hash, Machine.hashVia_object _ (root_holding ss),
    Machine.hashVia_object _ (root_holding ss), ← htwins.cls]
  cases depth with
  | zero =>
    rw [Machine.hashFrom, Machine.hashFrom, Machine.superVia_of_some _ .hash hbody,
      Machine.superVia_of_some _ .hash hbody]
    rfl
  | succ depth =>
    rw [Machine.invoke, Machine.hashFrom_of_lookup _ hbody, Machine.hashFrom_of_lookup _ hbody,
      Machine.hashBody, Machine.hashBody, hcall]
    exact htwins.on_foldHashVia (Machine.quiet_hash hss.fromEngine depth) _ _

theorem on_print_of_twins {options : PrintingOptions}
    (hbody : (Machine.holding ss).lookupFrom (some r.cls) .print =
      some (c.printMethod options).body)
    (hcall : options.callSuper = false) (depth : Nat) :
    ((Machine.holding ss).print depth (.object r)).on h =
      ((Machine.holding ss).print depth (.object s)).on h := by
  rw [Machine.print, Machine.print, Machine.printVia_object _ (root_holding ss),
    Machine.printVia_object _ (root_holding ss), ← htwins.cls]
  cases depth with
  | zero =>
    rw [Machine.printFrom, Machine.printFrom, Machine.superVia_of_some _ .print hbody,
      Machine.superVia_of_some _ .print hbody]
    rfl
  | succ depth =>
    have hvia := Machine.quiet_print hss.fromEngine depth
    have hown := Quiet.mapM (Machine.quiet_ownSegment _ hvia r) (c.participants .printing)
    rw [Machine.invoke, Machine.printFrom_of_lookup _ hbody, Machine.printFrom_of_lookup _ hbody,
      Machine.printBody, Machine.printBody, Machine.superSegments, Machine.superSegments, hcall]
    refine (Quiet.pure []).on_bind_congr rfl fun above => ?_
    exact hown.on_bind_congr (htwins.on_ownSegments hvia _) fun own => rfl

end IsProgram

end Memberwise

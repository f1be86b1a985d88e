import Memberwise.Proofs.Evaluation.Faults
import Memberwise.Proofs.Evaluation.Reads
import Memberwise.Proofs.Machine.Heap

/-!
# Fields that do not take part

Two heaps that differ in one field of one object give the same answers, or none on both, if no class
at or above the object's has the field take part. It does not matter how the object is come upon.
-/

namespace Memberwise

open Eval

namespace Heap

/-- Apart from one field of one object, which may be unset on either heap, the heaps are alike. -/
structure SameBut (h h' : Heap) (o : ObjectRef) (name : String) : Prop where
  cells : ∀ address, address ≠ o.address → h.cell? address = h'.cell? address
  fields : ∀ name', name' ≠ name → h.get? o name' = h'.get? o name'

variable {h h' : Heap} {o : ObjectRef} {name : String}

theorem SameBut.get?_eq (hsame : h.SameBut h' o name) {r : ObjectRef} {name' : String}
    (hr : r.address = o.address → r = o) (hname : r = o → name' ≠ name) :
    h.get? r name' = h'.get? r name' := by
  by_cases haddress : r.address = o.address
  · obtain rfl := hr haddress
    exact hsame.fields name' (hname rfl)
  · rw [get?, get?, Heap.fields, Heap.fields, hsame.cells r.address haddress]

/-- A write changes one field. -/
theorem HasObject.sameBut_set (ho : h.HasObject o) (name : String) (v : Value) :
    h.SameBut (h.set o name v) o name where
  cells _ hne := (ho.cell?_set_of_ne hne name v).symm
  fields name' hne := by rw [ho.get?_set, if_neg hne.symm]

end Heap

namespace SteadyReads

variable {ss : List ClassSynthesis} {family : Family} {h h' : Heap} {objects : Set ObjectRef}

theorem of_sameBut {o : ObjectRef} {name : String} (hclosed : h.Closed objects)
    (honce : ∀ r ∈ objects, r.address = o.address → r = o) (hsame : h.SameBut h' o name)
    (hunread : ∀ p, TakesPart ss family o.cls p → p.name ≠ name) :
    SteadyReads ss family h h' objects Set.univ where
  closed := hclosed
  read {r p} hr hp := by
    have hget : h.get? r p.name = h'.get? r p.name := by
      refine hsame.get?_eq (honce r hr) ?_
      rintro rfl
      exact hunread p hp
    exact .read (Heap.look_eq_of_get? hget) fun _ _ => trivial

end SteadyReads

namespace IsProgram

variable {ss : List ClassSynthesis} (hss : IsProgram ss) {h h' : Heap} {objects : Set ObjectRef}

include hss

theorem yields_iff_of_steadyReads {member : Member} {α : Type}
    {ask : Call → Option ClassName → ObjectRef → Value → Eval α}
    {via : Call → Value → Value → Eval α} (hq : Inquiry ss member ask via)
    (hreads : SteadyReads ss member.family h h' objects Set.univ) {v w : Value}
    (hv : v.Within objects) (hw : w.Within objects) (r : Except Fault α) :
    Yields (fun depth => via ((Machine.holding ss).invoke depth) v w) h r ↔
      Yields (fun depth => via ((Machine.holding ss).invoke depth) v w) h' r :=
  yields_iff_of_steady (fun _ => hq.steady_via hss hreads (.of_tooDeep trivial) hv hw
    fun _ _ => trivial) r

/-- A field that takes part in equality for no class at or above the object's changes no outcome of
equality or hash, whatever the values, and one that is not shown changes none of the printed form.
Where there is no outcome on one heap there is none on the other. No other of the objects has the
address of `o`. -/
theorem yields_iff_of_unread {o : ObjectRef} {name : String} (hclosed : h.Closed objects)
    (honce : ∀ r ∈ objects, r.address = o.address → r = o) (hsame : h.SameBut h' o name)
    {a b : Value} (ha : a.Within objects) (hb : b.Within objects) :
    let m := Machine.holding ss
    ((∀ p, TakesPart ss .equality o.cls p → p.name ≠ name) →
      (∀ r, Yields (m.equals · a b) h r ↔ Yields (m.equals · a b) h' r) ∧
      ∀ r, Yields (m.hash · a) h r ↔ Yields (m.hash · a) h' r) ∧
    ((∀ p, TakesPart ss .printing o.cls p → p.name ≠ name) →
      ∀ r, Yields (m.print · a) h r ↔ Yields (m.print · a) h' r) := by
  constructor
  · intro hunread
    have hreads := SteadyReads.of_sameBut hclosed honce hsame hunread
    constructor
    · exact hss.yields_iff_of_steadyReads equals_inquiry hreads ha hb
    · exact hss.yields_iff_of_steadyReads hash_inquiry hreads ha ha
  · intro hunread
    have hreads := SteadyReads.of_sameBut hclosed honce hsame hunread
    exact hss.yields_iff_of_steadyReads hss.print_inquiry hreads ha ha

end IsProgram

namespace Route

def annotated : Heap := heap.set last "note" (.object first)

theorem sameBut_annotated : heap.SameBut annotated last "note" :=
  Heap.HasObject.sameBut_set ⟨_, rfl⟩ _ _

theorem eq_last_of_address : ∀ r ∈ objects, r.address = last.address → r = last := by decide

theorem name_ne_note (member : Member) (hmember : member.family ≠ .building)
    (hunread : "note" ∉ (Machine.holding program).readsFrom last.cls member) {p : Property}
    (hp : TakesPart program member.family last.cls p) : p.name ≠ "note" := by
  intro hname
  exact hunread ((isProgram.mem_readsFrom_iff hmember).mpr ⟨p, hp, hname⟩)

end Route

/-- Stops before the one with the note compare, hash and show the same. -/
theorem IsProgram.yields_iff_of_unread_route :
    let m := Machine.holding Route.program
    (∀ r, Yields (m.equals · (.object Route.first) (.object Route.nameless)) Route.heap r ↔
      Yields (m.equals · (.object Route.first) (.object Route.nameless)) Route.annotated r) ∧
    (∀ r, Yields (m.hash · (.object Route.first)) Route.heap r ↔
      Yields (m.hash · (.object Route.first)) Route.annotated r) ∧
    ∀ r, Yields (m.print · (.object Route.first)) Route.heap r ↔
      Yields (m.print · (.object Route.first)) Route.annotated r := by
  have hfirst := Route.within_object (r := Route.first) (by decide)
  have hnameless := Route.within_object (r := Route.nameless) (by decide)
  have hall := Route.isProgram.yields_iff_of_unread Route.closed Route.eq_last_of_address
    Route.sameBut_annotated hfirst hnameless
  have hequality := hall.1 fun _ => Route.name_ne_note .equals (by decide) (by decide)
  have hprinting := hall.2 fun _ => Route.name_ne_note .print (by decide) (by decide)
  exact ⟨hequality.1, hequality.2, hprinting⟩

end Memberwise

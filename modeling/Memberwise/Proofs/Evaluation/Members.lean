import Memberwise.Proofs.Evaluation.Inquiry
import Memberwise.Proofs.Printing.Runs

/-!
# Equality, hash and printed form as inquiries

Each body first asks the superclass, where that is wanted, and then reads properties of the class
one by one, passing what it reads on. Equality reads the other object as well, but only after it has
found it to be an instance of the class.
-/

namespace Memberwise

open Eval

namespace Machine

variable (m : Machine) {call : Call} {h h' : Heap} {allowed : Set Halt} {this : ObjectRef}

theorem steady_agreeVia {that : ObjectRef} {ps : List Participant}
    (hthis : ∀ p ∈ ps, Steady h h' allowed (Eval.read (·.guarded this p.property)))
    (hthat : ∀ p ∈ ps, Steady h h' allowed (Eval.read (·.guarded that p.property)))
    (hvia : ∀ p v w, h.guarded this p = .ok v → h.guarded that p = .ok w →
      Steady h h' allowed (m.equalsVia call v w)) :
    Steady h h' allowed (m.agreeVia call this that ps) := by
  induction ps with
  | nil => exact .pure true
  | cons p ps ih =>
    have hrest := ih (fun q hq => hthis q (List.mem_cons_of_mem p hq))
      (fun q hq => hthat q (List.mem_cons_of_mem p hq))
    refine (hthis p List.mem_cons_self).read_bind fun v hv => ?_
    refine (hthat p List.mem_cons_self).read_bind fun w hw => ?_
    refine (hvia p.property v w hv hw).bind fun alike _ => ?_
    cases alike with
    | true => exact hrest
    | false => exact .pure false

theorem steady_equalsOwn {cls : ClassName} {ps : List Participant} {other : Value}
    (hagree : ∀ that, other = .object that → m.isSubclass that.cls cls = true →
      Steady h h' allowed (m.agreeVia call this that ps)) :
    Steady h h' allowed (m.equalsOwn call cls ps this other) := by
  unfold equalsOwn
  split
  · exact .pure true
  · cases other with
    | object that =>
      dsimp only
      split
      · rename_i hinstance
        exact hagree that rfl hinstance
      · exact .pure false
    | _ => exact .pure false

theorem steady_equalsBody {cls : ClassName} {superclass : Option ClassName}
    {options : EqualityOptions} {ps : List Participant} {other : Value}
    (hsuper : Steady h h' allowed (m.equalsFrom call superclass this other))
    (hown : Steady h h' allowed (m.equalsOwn call cls ps this other)) :
    Steady h h' allowed (m.equalsBody call cls superclass options ps this other) := by
  unfold equalsBody
  split
  · refine hsuper.bind fun above _ => ?_
    cases above with
    | true => exact hown
    | false => exact .pure false
  · exact hown

theorem steady_foldHashVia {ps : List Participant}
    (hthis : ∀ p ∈ ps, Steady h h' allowed (Eval.read (·.guarded this p.property)))
    (hvia : ∀ p v, h.guarded this p = .ok v → Steady h h' allowed (m.hashVia call v)) (x : Int32) :
    Steady h h' allowed (m.foldHashVia call this ps x) := by
  induction ps generalizing x with
  | nil => exact .pure x
  | cons p ps ih =>
    refine (hthis p List.mem_cons_self).read_bind fun v hv => ?_
    refine (hvia p.property v hv).bind fun y _ => ?_
    exact ih (fun q hq => hthis q (List.mem_cons_of_mem p hq)) _

theorem steady_hashBody {superclass : Option ClassName} {options : EqualityOptions}
    {ps : List Participant} (hsuper : Steady h h' allowed (m.hashFrom call superclass this))
    (hown : ∀ x, Steady h h' allowed (m.foldHashVia call this ps x)) :
    Steady h h' allowed (m.hashBody call superclass options ps this) := by
  unfold hashBody
  split
  · exact hsuper.bind fun x _ => hown x
  · exact hown _

theorem steady_ownSegments {ps : List Participant}
    (hthis : ∀ p ∈ ps, Steady h h' allowed (Eval.read (·.read this p.property.name)))
    (hvia : ∀ p : Property, ∀ v, h.read this p.name = .ok v →
      Steady h h' allowed (m.printVia call v)) :
    Steady h h' allowed (ps.mapM (m.ownSegment call this)) := by
  refine .mapM fun p hp => ?_
  refine (hthis p hp).read_bind fun v hv => ?_
  exact (hvia p.property v hv).map _

theorem steady_printBody {cls : ClassName} {superclass : Option ClassName}
    {options : PrintingOptions} {ps : List Participant}
    (hsuper : Steady h h' allowed (m.superSegments call superclass options this))
    (hown : Steady h h' allowed (ps.mapM (m.ownSegment call this))) :
    Steady h h' allowed (m.printBody call cls superclass options ps this) :=
  hsuper.bind fun _ _ => hown.map _

end Machine

namespace IsProgram

variable {ss : List ClassSynthesis} (hss : IsProgram ss)

theorem equals_inquiry :
    Inquiry ss .equals (fun call => (Machine.holding ss).equalsFrom call)
      (fun call => (Machine.holding ss).equalsVia call) where
  family_ne := by decide
  via_object call r w := Machine.equalsVia_object _ (root_holding ss) r w
  via_plain call v w hv := by
    cases v with
    | object r => exact absurd rfl (hv r)
    | _ => exact ⟨_, rfl⟩
  root call start this w hnone := ⟨_, Machine.equalsFrom_of_none _ (root_holding ss) hnone this w⟩
  zero this w hc := by
    obtain ⟨options, -, hbody⟩ := hc.equals
    rw [Machine.equalsFrom, Machine.superVia_of_some _ .equals hbody]
    rfl
  succ hc hreads hthis hinstance hw hsuper hvia := by
    obtain ⟨options, -, hbody⟩ := hc.equals
    rw [Machine.invoke, Machine.equalsFrom_of_lookup _ hbody]
    refine Machine.steady_equalsBody _ hsuper (Machine.steady_equalsOwn _ ?_)
    rintro that rfl hthat
    have hmem := hw that rfl
    refine Machine.steady_agreeVia _ ?_ ?_ ?_
    · exact fun p hp => hreads.read hthis (hc.takesPart hinstance hp)
    · exact fun p hp => hreads.read hmem (hc.takesPart hthat hp)
    · exact fun p v u hv hu => hvia p v u hv (hreads.closed.guarded hmem hu)

theorem hash_inquiry :
    Inquiry ss .hash (fun call start this _ => (Machine.holding ss).hashFrom call start this)
      (fun call v _ => (Machine.holding ss).hashVia call v) where
  family_ne := by decide
  via_object call r _ := Machine.hashVia_object _ (root_holding ss) r
  via_plain call v _ hv := by
    cases v with
    | object r => exact absurd rfl (hv r)
    | _ => exact ⟨_, rfl⟩
  root call start this _ hnone := ⟨_, Machine.hashFrom_of_none _ (root_holding ss) hnone this⟩
  zero this _ hc := by
    obtain ⟨options, -, hbody⟩ := hc.hash
    rw [Machine.hashFrom, Machine.superVia_of_some _ .hash hbody]
    rfl
  succ hc hreads hthis hinstance hw hsuper hvia := by
    obtain ⟨options, -, hbody⟩ := hc.hash
    rw [Machine.invoke, Machine.hashFrom_of_lookup _ hbody]
    refine Machine.steady_hashBody _ hsuper (Machine.steady_foldHashVia _ ?_ ?_)
    · exact fun p hp => hreads.read hthis (hc.takesPart hinstance hp)
    · exact fun p v hv => hvia p v _ hv hw

include hss

theorem print_inquiry :
    Inquiry ss .print (fun call start this _ => (Machine.holding ss).printFrom call start this)
      (fun call v _ => (Machine.holding ss).printVia call v) where
  family_ne := by decide
  via_object call r _ := Machine.printVia_object _ (root_holding ss) r
  via_plain call v _ hv := by
    cases v with
    | object r => exact absurd rfl (hv r)
    | _ => exact ⟨_, rfl⟩
  root call start this _ hnone := ⟨_, Machine.printFrom_of_none _ (root_holding ss) hnone this⟩
  zero this _ hc := by
    obtain ⟨options, -, hbody⟩ := hc.print
    rw [Machine.printFrom, Machine.superVia_of_some _ .print hbody]
    rfl
  succ hc hreads hthis hinstance hw hsuper hvia := by
    obtain ⟨options, -, hbody⟩ := hc.print
    rw [Machine.invoke, Machine.printFrom_of_lookup _ hbody]
    refine Machine.steady_printBody _ ?_ (Machine.steady_ownSegments _ ?_ ?_)
    · rw [Machine.superSegments_eq hss.fromEngine]
      split
      · exact hsuper.map _
      · exact .pure []
    · exact fun p hp => hreads.read hthis (hc.takesPart hinstance hp)
    · exact fun p v hv => hvia p v _ hv hw

end IsProgram

end Memberwise

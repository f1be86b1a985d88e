import Memberwise.Proofs.Equality.Relation
import Memberwise.Proofs.Equality.Laws
import Memberwise.Proofs.Machine.Dispatch
import Memberwise.Proofs.Machine.Steady

/-!
# Members that are asked from a class upwards

Equality, hash and printed form are asked in the same way: a value asks the class of its object, and
a class may ask its superclass. What one level of this does is left to the member. Here it is shown
for whole runs that they are steady between two heaps as soon as the reads of properties are.
-/

namespace Memberwise

open Eval

namespace Heap

def look (h : Heap) (family : Family) (r : ObjectRef) (p : Property) : Except Fault Value :=
  match family with
  | .printing => h.read r p.name
  | _ => h.guarded r p

variable {h : Heap} {family : Family} {r : ObjectRef} {p : Property}

theorem look_eq_of_get? {h' : Heap} (hget : h.get? r p.name = h'.get? r p.name) :
    h.look family r p = h'.look family r p := by
  cases family <;> simp only [look, guarded, read, hget]

theorem get?_of_look {s : ObjectRef} (hlook : h.look family r p = .ok (.object s)) :
    h.get? r p.name = some (.object s) := by
  cases hget : h.get? r p.name with
  | some v => cases family <;> simpa [look, guarded, read, hget] using hlook
  | none =>
    cases hp : p.isDeferred <;> cases family <;> simp [look, guarded, read, hget, hp] at hlook

theorem Closed.look {objects : Set ObjectRef} (hclosed : h.Closed objects) (hr : r ∈ objects)
    {v : Value} (hv : h.look family r p = .ok v) : v.Within objects := by
  rintro s rfl
  exact hclosed r hr p.name _ (get?_of_look hv) s rfl

end Heap

structure SteadyReads (ss : List ClassSynthesis) (family : Family) (h h' : Heap)
    (objects : Set ObjectRef) (allowed : Set Halt) : Prop where
  closed : h.Closed objects
  read {r : ObjectRef} {p : Property} : r ∈ objects → TakesPart ss family r.cls p →
    Steady h h' allowed (Eval.read (·.look family r p))

/-- What is enough for an object to be asked from a class upwards with calls nested that deep is
enough, one level down, for the superclass and for the objects in its properties. -/
structure Suffices (ss : List ClassSynthesis) (member : Member) (h : Heap) (allowed : Set Halt)
    (enough : Nat → Option ClassName → ObjectRef → Prop) : Prop where
  zero {start : Option ClassName} {this : ObjectRef} : enough 0 start this → .tooDeep ∈ allowed
  above {depth : Nat} {start : Option ClassName} {c : ClassDecl} {this : ObjectRef} :
    AnswersFrom ss member start c → enough (depth + 1) start this → enough depth c.superclass this
  below {depth : Nat} {start : Option ClassName} {this s : ObjectRef} {p : Property} :
    enough (depth + 1) start this → h.look member.family this p = .ok (.object s) →
    enough depth (some s.cls) s

/-- A member, with how it is asked on an object from a class upwards and how on a value. The second
value is what an object is compared with, if anything. -/
structure Inquiry (ss : List ClassSynthesis) (member : Member) {α : Type}
    (ask : Call → Option ClassName → ObjectRef → Value → Eval α)
    (via : Call → Value → Value → Eval α) : Prop where
  family_ne : member.family ≠ .building
  via_object (call : Call) (r : ObjectRef) (w : Value) :
    via call (.object r) w = ask call (some r.cls) r w
  via_plain (call : Call) {v : Value} (w : Value) :
    (∀ r, v ≠ .object r) → ∃ a, via call v w = pure a
  root (call : Call) {start : Option ClassName} (this : ObjectRef) (w : Value) :
    (Machine.holding ss).lookupFrom start member = none → ∃ a, ask call start this w = pure a
  zero {start : Option ClassName} {c : ClassDecl} (this : ObjectRef) (w : Value) :
    AnswersFrom ss member start c →
    ask ((Machine.holding ss).invoke 0) start this w = throw .tooDeep
  /-- One level: steady if the superclass answers so and the values of the properties do. -/
  succ {start : Option ClassName} {c : ClassDecl} {h h' : Heap} {objects : Set ObjectRef}
    {allowed : Set Halt} {this : ObjectRef} {w : Value} {depth : Nat} :
    AnswersFrom ss member start c → SteadyReads ss member.family h h' objects allowed →
    this ∈ objects → (Machine.holding ss).isSubclass this.cls c.name = true → w.Within objects →
    Steady h h' allowed (ask ((Machine.holding ss).invoke depth) c.superclass this w) →
    (∀ p v u, h.look member.family this p = .ok v → u.Within objects →
      Steady h h' allowed (via ((Machine.holding ss).invoke depth) v u)) →
    Steady h h' allowed (ask ((Machine.holding ss).invoke (depth + 1)) start this w)

namespace Inquiry

variable {ss : List ClassSynthesis} {member : Member} {α : Type}
  {ask : Call → Option ClassName → ObjectRef → Value → Eval α}
  {via : Call → Value → Value → Eval α} (hq : Inquiry ss member ask via) {h h' : Heap}
  {objects : Set ObjectRef} {allowed : Set Halt}

include hq

theorem steady_via_of {call : Call} {v w : Value}
    (hask : ∀ r, v = .object r → Steady h h' allowed (ask call (some r.cls) r w)) :
    Steady h h' allowed (via call v w) := by
  by_cases hobject : ∃ r, v = .object r
  · obtain ⟨r, rfl⟩ := hobject
    rw [hq.via_object]
    exact hask r rfl
  · obtain ⟨a, ha⟩ := hq.via_plain call w fun r hr => hobject ⟨r, hr⟩
    rw [ha]
    exact .pure a

/-- Where no class answers the root does, without a look at the heap. -/
theorem steady_of_answersFrom (hss : IsProgram ss) {call : Call} {start : Option ClassName}
    {this : ObjectRef} {w : Value}
    (hanswers : ∀ c, AnswersFrom ss member start c →
      Steady h h' allowed (ask call start this w)) :
    Steady h h' allowed (ask call start this w) := by
  rcases hss.answersFrom_or_none hq.family_ne start with hnone | ⟨c, hc⟩
  · obtain ⟨a, ha⟩ := hq.root call this w hnone
    rw [ha]
    exact .pure a
  · exact hanswers c hc

theorem steady_ask (hss : IsProgram ss)
    (hreads : SteadyReads ss member.family h h' objects allowed)
    {enough : Nat → Option ClassName → ObjectRef → Prop}
    (henough : Suffices ss member h allowed enough) {depth : Nat} {start : Option ClassName}
    {this : ObjectRef} {w : Value} (hthis : this ∈ objects)
    (hbelow : ∀ cls, start = some cls → (Machine.holding ss).isSubclass this.cls cls = true)
    (hw : w.Within objects) (hdepth : enough depth start this) :
    Steady h h' allowed (ask ((Machine.holding ss).invoke depth) start this w) := by
  induction depth generalizing start this w with
  | zero =>
    refine hq.steady_of_answersFrom hss fun c hc => ?_
    rw [hq.zero this w hc]
    exact .throw (henough.zero hdepth)
  | succ depth ih =>
    refine hq.steady_of_answersFrom hss fun c hc => ?_
    have hinstance := hc.isSubclass hbelow
    refine hq.succ hc hreads hthis hinstance hw ?_ ?_
    · exact ih hthis (hc.isSubclass_superclass hinstance) hw (henough.above hc hdepth)
    · -- what is in a property is asked from its own class upwards
      intro p v u hv hu
      refine hq.steady_via_of ?_
      rintro s rfl
      have hs : s ∈ objects := hreads.closed.look hthis hv s rfl
      refine ih hs ?_ hu (henough.below hdepth hv)
      rintro _ ⟨⟩
      exact Machine.isSubclass_refl _ _

/-- Whoever is asked, the answer is steady if the reads are. -/
theorem steady_via (hss : IsProgram ss)
    (hreads : SteadyReads ss member.family h h' objects allowed)
    {enough : Nat → Option ClassName → ObjectRef → Prop}
    (henough : Suffices ss member h allowed enough) {depth : Nat} {v w : Value}
    (hv : v.Within objects) (hw : w.Within objects)
    (hdepth : ∀ r, v = .object r → enough depth (some r.cls) r) :
    Steady h h' allowed (via ((Machine.holding ss).invoke depth) v w) := by
  refine hq.steady_via_of ?_
  intro r hr
  refine hq.steady_ask hss hreads henough (hv r hr) ?_ hw (hdepth r hr)
  rintro _ ⟨⟩
  exact Machine.isSubclass_refl _ _

end Inquiry

end Memberwise

import Memberwise.Proofs.Equality.Relation
import Memberwise.Proofs.Machine.Depth

/-!
# Symmetry and transitivity of equality

Equality dispatches on its left operand. Where the objects below a class that compares all answer
with that class, it is symmetric and transitive nevertheless: both operands are then compared from
the same class upwards, and there the roles of the two can be exchanged.
-/

namespace Memberwise

open Eval

namespace Value

/-- The value is not an object, or one of these. -/
def Within (objects : Set ObjectRef) (v : Value) : Prop := ∀ r, v = .object r → r ∈ objects

end Value

namespace Heap

/-- No object of these has a property that is an object outside. -/
def Closed (h : Heap) (objects : Set ObjectRef) : Prop :=
  ∀ r ∈ objects, ∀ name v, h.get? r name = some v → v.Within objects

theorem Closed.guarded {h : Heap} {objects : Set ObjectRef} (hclosed : h.Closed objects)
    {r : ObjectRef} (hr : r ∈ objects) {p : Property} {v : Value}
    (hv : h.guarded r p = .ok v) : v.Within objects := by
  unfold Heap.guarded at hv
  cases hfield : h.get? r p.name with
  | some w =>
    rw [hfield] at hv
    cases hv
    exact hclosed r hr p.name v hfield
  | none =>
    rw [hfield] at hv
    intro s hs
    subst hs
    cases hp : p.isDeferred <;> simp [hp] at hv

def closedOn (h : Heap) (objects : List ObjectRef) : Bool :=
  objects.all fun r => (h.fields r).entries.all fun e => e.2.object?.all (· ∈ objects)

theorem closed_of_closedOn {h : Heap} {objects : List ObjectRef}
    (hclosed : h.closedOn objects = true) : h.Closed {r | r ∈ objects} := by
  intro r hr name v hv s hs
  subst hs
  have hfields := List.all_eq_true.mp hclosed r hr
  have hentry := List.all_eq_true.mp hfields _ (Table.mem_entries_of_get? hv)
  exact of_decide_eq_true hentry

end Heap

namespace Machine

/-- Where one of the objects answers for equality with the body of a class, all of them that are
instances of the class do. -/
def SharesEquality (m : Machine) (objects : Set ObjectRef) : Prop :=
  ∀ cls body, m.bodies.get? (cls, .equals) = some body →
    ∀ r ∈ objects, m.lookup r.cls .equals = some body →
      ∀ s ∈ objects, m.isSubclass s.cls cls = true → m.lookup s.cls .equals = some body

variable {m : Machine}

theorem superVia_congr {start start' : Option ClassName} {method : ObjectMethod}
    (hlookup : m.lookupFrom start (.ofObjectMethod method) =
      m.lookupFrom start' (.ofObjectMethod method)) (call : Call) (this : ObjectRef)
    (args : List Value) :
    m.superVia call this start method args = m.superVia call this start' method args := by
  change start.bind _ = start'.bind _ at hlookup
  rw [superVia, superVia, hlookup]

theorem EquatesFrom.congr {h : Heap} {depth : Nat} {start start' : Option ClassName}
    (hlookup : m.lookupFrom start .equals = m.lookupFrom start' .equals) {this : ObjectRef}
    {other : Value} (heq : m.EquatesFrom h depth start this other) :
    m.EquatesFrom h depth start' this other := by
  rwa [EquatesFrom, equalsFrom, ← superVia_congr hlookup]

theorem Compares.isSubclass_superclass {c : ClassDecl} {options : EqualityOptions}
    (hc : m.Compares c options) {cls parent : ClassName} (hcls : m.isSubclass cls c.name = true)
    (hparent : c.superclass = some parent) : m.isSubclass cls parent = true :=
  isSubclass_parent hcls (hc.parent.trans hparent)

theorem ComparesFrom.isSubclass {start : Option ClassName} {c : ClassDecl}
    {options : EqualityOptions} (hc : m.ComparesFrom start c options) {this : ObjectRef}
    (hbelow : ∀ cls, start = some cls → m.isSubclass this.cls cls = true) :
    m.isSubclass this.cls c.name = true := by
  cases start with
  | none => cases hc.equals
  | some cls => exact isSubclass_trans (hbelow cls rfl) (hc.above cls rfl)

theorem Equates.deepen {h : Heap} {depth depth' : Nat} {a b : Value}
    (heq : m.Equates h depth a b) (hle : depth ≤ depth') : m.Equates h depth' a b :=
  (m.equals_deepening a b).on_eq (r := .ok true) hle heq

variable (m) (h : Heap) (objects : Set ObjectRef) (depth : Nat)

def SymmetricFrom : Prop :=
  ∀ start, ∀ this that : ObjectRef, this ∈ objects → that ∈ objects →
    (∀ cls, start = some cls → m.isSubclass this.cls cls = true) →
    m.EquatesFrom h depth start this (.object that) →
    m.EquatesFrom h depth start that (.object this)

def TransitiveFrom : Prop :=
  ∀ start, ∀ a b c : ObjectRef, a ∈ objects → b ∈ objects → c ∈ objects →
    m.EquatesFrom h depth start a (.object b) → m.EquatesFrom h depth start b (.object c) →
    m.EquatesFrom h depth start a (.object c)

end Machine

namespace IsProgram

variable {ss : List ClassSynthesis} (hss : IsProgram ss) {h : Heap} {objects : Set ObjectRef}

include hss

/-- Unless they are the same, two equal objects answer with the same body. -/
theorem exists_of_equates {depth : Nat} {this : ObjectRef} {other : Value}
    (hshares : (Machine.holding ss).SharesEquality objects) (hthis : this ∈ objects)
    (hother : other.Within objects)
    (heq : (Machine.holding ss).Equates h depth (.object this) other) :
    other = .object this ∨ ∃ that ∈ objects, other = .object that ∧
      (Machine.holding ss).lookupFrom (some that.cls) .equals =
        (Machine.holding ss).lookupFrom (some this.cls) .equals := by
  rcases hss.equatesFrom_cases (equates_object.mp heq) with
    ⟨-, hsame⟩ | ⟨_, c, options, -, hc, -, hsame | ⟨that, rfl, hinstance, -⟩⟩
  · exact .inl hsame.symm
  · exact .inl hsame.symm
  · refine .inr ⟨that, hother that rfl, rfl, ?_⟩
    have hlookup := hshares c.name _ hc.compares.equals this hthis hc.equals that
      (hother that rfl) hinstance
    exact hlookup.trans hc.equals.symm

theorem equates_symm_of {depth : Nat} (hshares : (Machine.holding ss).SharesEquality objects)
    (hfrom : (Machine.holding ss).SymmetricFrom h objects depth) {v w : Value}
    (hv : v.Within objects) (hw : w.Within objects)
    (heq : (Machine.holding ss).Equates h depth v w) :
    (Machine.holding ss).Equates h depth w v := by
  cases v with
  | object r =>
    rcases hss.exists_of_equates hshares (hv r rfl) hw heq with rfl | ⟨s, hs, rfl, hlookup⟩
    · exact heq
    · have hself : ∀ cls, some r.cls = some cls →
          (Machine.holding ss).isSubclass r.cls cls = true := by
        rintro _ ⟨⟩
        exact Machine.isSubclass_refl _ _
      have hback := hfrom (some r.cls) r s (hv r rfl) hs hself (equates_object.mp heq)
      exact equates_object.mpr (hback.congr hlookup.symm)
  | _ =>
    obtain rfl := (equates_of_ne_object (by simp)).mp heq
    exact heq

theorem symmetricFrom (hclosed : h.Closed objects)
    (hshares : (Machine.holding ss).SharesEquality objects) (depth : Nat) :
    (Machine.holding ss).SymmetricFrom h objects depth := by
  induction depth using Nat.strong_induction_on with
  | h depth ih =>
    intro start this that hthis hthat hbelow heq
    rcases hss.equatesFrom_cases heq with
      ⟨hnone, hsame⟩ | ⟨depth, c, options, rfl, hc, hsuper, hown⟩
    · exact (equatesFrom_of_none hnone).mpr hsame.symm
    · have ih := ih depth depth.lt_succ_self
      have hinstance := hc.isSubclass hbelow
      refine (hss.equatesFrom_succ hc).mpr ⟨?_, ?_⟩
      · intro hcall
        refine ih c.superclass this that hthis hthat ?_ (hsuper hcall)
        intro parent hparent
        exact hc.compares.isSubclass_superclass hinstance hparent
      · rcases hown with hsame | ⟨_, ⟨⟩, -, hagree⟩
        · exact .inl hsame.symm
        · refine .inr ⟨this, rfl, hinstance, ?_⟩
          intro p hp
          obtain ⟨v, w, hv, hw, hvw⟩ := hagree p hp
          exact ⟨w, v, hw, hv, hss.equates_symm_of hshares ih (hclosed.guarded hthis hv)
            (hclosed.guarded hthat hw) hvw⟩

theorem equates_trans_of {depth : Nat} (hshares : (Machine.holding ss).SharesEquality objects)
    (hfrom : (Machine.holding ss).TransitiveFrom h objects depth) {u v w : Value}
    (hu : u.Within objects) (hv : v.Within objects) (hw : w.Within objects)
    (huv : (Machine.holding ss).Equates h depth u v)
    (hvw : (Machine.holding ss).Equates h depth v w) :
    (Machine.holding ss).Equates h depth u w := by
  cases u with
  | object r =>
    rcases hss.exists_of_equates hshares (hu r rfl) hv huv with rfl | ⟨s, hs, rfl, hlookup⟩
    · exact hvw
    · rcases hss.exists_of_equates hshares hs hw hvw with rfl | ⟨t, ht, rfl, -⟩
      · exact huv
      · rw [equates_object] at huv hvw ⊢
        exact hfrom (some r.cls) r s t (hu r rfl) hs ht huv (hvw.congr hlookup)
  | _ =>
    obtain rfl := (equates_of_ne_object (by simp)).mp huv
    exact hvw

theorem transitiveFrom (hclosed : h.Closed objects)
    (hshares : (Machine.holding ss).SharesEquality objects) (depth : Nat) :
    (Machine.holding ss).TransitiveFrom h objects depth := by
  induction depth using Nat.strong_induction_on with
  | h depth ih =>
    intro start a b c ha hb hc hab hbc
    rcases hss.equatesFrom_cases hab with
      ⟨-, hsame⟩ | ⟨depth, d, options, rfl, hd, hsuper, hown⟩
    · obtain rfl := Value.object.inj hsame
      exact hbc
    · have ih := ih depth depth.lt_succ_self
      rw [hss.equatesFrom_succ hd] at hab hbc ⊢
      constructor
      · intro hcall
        exact ih d.superclass a b c ha hb hc (hsuper hcall) (hbc.1 hcall)
      · rcases hown with hsame | ⟨_, ⟨⟩, -, hagree⟩
        · obtain rfl := Value.object.inj hsame
          exact hbc.2
        · rcases hbc.2 with hsame | ⟨_, ⟨⟩, hinstance, hagree'⟩
          · obtain rfl := Value.object.inj hsame
            exact hab.2
          · refine .inr ⟨c, rfl, hinstance, ?_⟩
            intro p hp
            obtain ⟨u, v, hu, hv, huv⟩ := hagree p hp
            obtain ⟨v', w, hv', hw, hvw⟩ := hagree' p hp
            obtain rfl : v = v' := Except.ok.inj (hv.symm.trans hv')
            exact ⟨u, w, hu, hw, hss.equates_trans_of hshares ih (hclosed.guarded ha hu)
              (hclosed.guarded hb hv) (hclosed.guarded hc hw) huv hvw⟩

theorem ends_equals_iff {a b : Value} {h' : Heap} :
    Ends ((Machine.holding ss).equals · a b) h (.ok true) h' ↔
      h' = h ∧ ∃ depth, (Machine.holding ss).Equates h depth a b := by
  constructor
  · rintro ⟨depth, heq⟩
    obtain rfl := (Machine.quiet_equals hss.fromEngine depth a b).heap_eq heq
    exact ⟨rfl, depth, heq⟩
  · rintro ⟨rfl, depth, heq⟩
    exact ⟨depth, heq⟩

/-- Equality is symmetric and transitive on objects that share it: all those of the heap, or as many
as the operands lead to. -/
theorem equals_symm_and_trans (hclosed : h.Closed objects)
    (hshares : (Machine.holding ss).SharesEquality objects) {a b c : Value}
    (ha : a.Within objects) (hb : b.Within objects) (hc : c.Within objects) :
    (∀ h₁, Ends ((Machine.holding ss).equals · a b) h (.ok true) h₁ →
      Ends ((Machine.holding ss).equals · b a) h (.ok true) h) ∧
    (∀ h₁ h₂, Ends ((Machine.holding ss).equals · a b) h (.ok true) h₁ →
      Ends ((Machine.holding ss).equals · b c) h (.ok true) h₂ →
      Ends ((Machine.holding ss).equals · a c) h (.ok true) h) := by
  simp only [hss.ends_equals_iff, true_and]
  constructor
  · rintro h₁ ⟨-, depth, hab⟩
    have hfrom := hss.symmetricFrom hclosed hshares depth
    exact ⟨depth, hss.equates_symm_of hshares hfrom ha hb hab⟩
  · rintro h₁ h₂ ⟨-, d₁, hab⟩ ⟨-, d₂, hbc⟩
    have hab := hab.deepen (Nat.le_max_left d₁ d₂)
    have hbc := hbc.deepen (Nat.le_max_right d₁ d₂)
    have hfrom := hss.transitiveFrom hclosed hshares (max d₁ d₂)
    exact ⟨max d₁ d₂, hss.equates_trans_of hshares hfrom ha hb hc hab hbc⟩

end IsProgram

namespace Chain

def node : ClassDecl :=
  { ClassDecl.empty ⟨"Node"⟩ .plain with
    properties := [.ofBody "id" .int],
    annotations := { Annotations.none with equality := some default } }

/-- Compares what a node has, the next link and a tag that is assigned later. -/
def link : ClassDecl :=
  { ClassDecl.empty ⟨"Link"⟩ .plain with
    superclass := some node.name,
    properties := [.ofBody "next" (.orNull "Link"), .deferred "tag" .string],
    annotations :=
      { Annotations.none with equality := some ⟨false, true, true, true⟩ } }

def knot : ClassDecl :=
  { ClassDecl.empty ⟨"Knot"⟩ .plain with superclass := some link.name }

def program : List ClassSynthesis :=
  [knot, link, node].map fun c => ((Engine.new .standard).synthesizeClass c).1

theorem isProgram : IsProgram program := .of_nodup .standard (by decide)

def last : ObjectRef := ⟨1, link.name⟩

def untagged : ObjectRef := ⟨2, link.name⟩

def before : ObjectRef := ⟨3, link.name⟩

def knotted : ObjectRef := ⟨4, knot.name⟩

def again : ObjectRef := ⟨5, link.name⟩

def objects : List ObjectRef := [last, untagged, before, knotted, again]

def heap : Heap :=
  ⟨[.object (.ofList [("id", .int 2), ("next", .null), ("tag", .null)]),
    .object (.ofList [("id", .int 2), ("next", .null)]),
    .object (.ofList [("id", .int 1), ("next", .object last)]),
    .object (.ofList [("id", .int 1), ("next", .object untagged), ("tag", .null)]),
    .object (.ofList [("id", .int 1), ("next", .object last)])]⟩

theorem closed : heap.Closed {r | r ∈ objects} := Heap.closed_of_closedOn (by decide)

theorem within_object {r : ObjectRef} (hr : r ∈ objects) :
    (Value.object r).Within {r | r ∈ objects} := by
  rintro _ ⟨⟩
  exact hr

theorem sharesEquality : (Machine.holding program).SharesEquality {r | r ∈ objects} := by
  have hlink : ∀ r ∈ objects, (Machine.holding program).lookup r.cls .equals =
      (Machine.holding program).lookup link.name .equals := by
    intro r hr
    simp only [objects, List.mem_cons, List.not_mem_nil, or_false] at hr
    rcases hr with rfl | rfl | rfl | rfl | rfl <;> rfl
  intro cls body _ r hr hbody s hs _
  rw [hlink s hs, ← hlink r hr, hbody]

end Chain

theorem IsProgram.equals_symm_and_trans_chain :
    let equals := fun a b depth =>
      (Machine.holding Chain.program).equals depth (.object a) (.object b)
    Ends (equals Chain.knotted Chain.before) Chain.heap (.ok true) Chain.heap ∧
      Ends (equals Chain.before Chain.again) Chain.heap (.ok true) Chain.heap := by
  have hlaws := Chain.isProgram.equals_symm_and_trans Chain.closed Chain.sharesEquality
    (Chain.within_object (r := Chain.before) (by decide))
    (Chain.within_object (r := Chain.knotted) (by decide))
    (Chain.within_object (r := Chain.again) (by decide))
  exact ⟨hlaws.1 _ ⟨4, rfl⟩, hlaws.2 _ _ ⟨4, rfl⟩ ⟨4, rfl⟩⟩

end Memberwise

import Memberwise.Proofs.Equality.Runs

/-!
# When equality holds

Equality holds from a class upwards where each class that is asked meets the same object again or
an instance of itself with equal values in all its properties. The relation is indexed by the bound
on the depth of calls, over which the proofs go by induction.
-/

namespace Memberwise

open Eval

namespace Machine

variable (m : Machine) (h : Heap)

def Equates (depth : Nat) (a b : Value) : Prop := (m.equals depth a b).on h = (.ok true, h)

def EquatesFrom (depth : Nat) (start : Option ClassName) (this : ObjectRef) (other : Value) :
    Prop :=
  (m.equalsFrom (m.invoke depth) start this other).on h = (.ok true, h)

def Agree (depth : Nat) (participants : List Participant) (this that : ObjectRef) : Prop :=
  ∀ p ∈ participants, ∃ v w, h.guarded this p.property = .ok v ∧
    h.guarded that p.property = .ok w ∧ m.Equates h depth v w

def Resembles (depth : Nat) (c : ClassDecl) (this : ObjectRef) (other : Value) : Prop :=
  ∃ that, other = .object that ∧ m.isSubclass that.cls c.name = true ∧
    m.Agree h depth (c.participants .equality) this that

variable {m h}

theorem agree_cons {depth : Nat} {p : Participant} {ps : List Participant} {this that : ObjectRef} :
    m.Agree h depth (p :: ps) this that ↔
      (∃ v w, h.guarded this p.property = .ok v ∧ h.guarded that p.property = .ok w ∧
        m.Equates h depth v w) ∧ m.Agree h depth ps this that := by
  simp [Agree]

theorem on_read_ok_iff {α : Type} {f : Heap → Except Fault α} {h h' : Heap} {a : α} :
    (read f).on h = (.ok a, h') ↔ f h = .ok a ∧ h = h' := by
  rw [on_read, Prod.mk.injEq]
  cases f h <;> simp

end Machine

namespace IsProgram

variable {ss : List ClassSynthesis} (hss : IsProgram ss) {h : Heap}

theorem equates_object {depth : Nat} {this : ObjectRef} {other : Value} :
    (Machine.holding ss).Equates h depth (.object this) other ↔
      (Machine.holding ss).EquatesFrom h depth (some this.cls) this other := by
  rw [Machine.Equates, Machine.equals, Machine.equalsVia_object _ (root_holding ss)]
  rfl

theorem equates_of_ne_object {depth : Nat} {a b : Value} (ha : ∀ r, a ≠ .object r) :
    (Machine.holding ss).Equates h depth a b ↔ a = b := by
  rw [Machine.Equates, Machine.equals]
  cases a with
  | object r => exact absurd rfl (ha r)
  | _ => simp [Machine.equalsVia]

theorem equatesFrom_of_none {depth : Nat} {start : Option ClassName} {this : ObjectRef}
    {other : Value} (hnone : (Machine.holding ss).lookupFrom start .equals = none) :
    (Machine.holding ss).EquatesFrom h depth start this other ↔ .object this = other := by
  rw [Machine.EquatesFrom, Machine.equalsFrom_of_none _ (root_holding ss) hnone]
  simp

theorem not_equatesFrom_zero {start : Option ClassName} {c : ClassDecl}
    {options : EqualityOptions} (hc : (Machine.holding ss).ComparesFrom start c options)
    {this : ObjectRef} {other : Value} :
    ¬ (Machine.holding ss).EquatesFrom h 0 start this other := by
  rw [Machine.EquatesFrom, Machine.equalsFrom, Machine.superVia_of_some _ .equals hc.equals]
  intro htrue
  cases htrue

include hss

theorem agreeVia_iff {depth : Nat} {this that : ObjectRef} {participants : List Participant} :
    ((Machine.holding ss).agreeVia ((Machine.holding ss).invoke depth) this that
        participants).on h = (.ok true, h) ↔
      (Machine.holding ss).Agree h depth participants this that := by
  induction participants with
  | nil => simp [Machine.agreeVia, Machine.Agree]
  | cons p ps ih =>
    rw [Machine.agreeVia, Machine.agree_cons, ← ih, (Quiet.read _).bind_ok_iff]
    constructor
    · rintro ⟨v, hv, hrest⟩
      obtain ⟨w, hw, hrest⟩ := (Quiet.read _).bind_ok_iff.mp hrest
      obtain ⟨b, hb, hrest⟩ := (Machine.quiet_equals hss.fromEngine depth v w).bind_ok_iff.mp hrest
      cases b with
      | true =>
        have hv := (Machine.on_read_ok_iff.mp hv).1
        have hw := (Machine.on_read_ok_iff.mp hw).1
        exact ⟨⟨v, w, hv, hw, hb⟩, hrest⟩
      | false => cases hrest
    · rintro ⟨⟨v, w, hv, hw, hvw⟩, hrest⟩
      refine ⟨v, Machine.on_read_ok_iff.mpr ⟨hv, rfl⟩, ?_⟩
      refine (Quiet.read _).bind_ok_iff.mpr ⟨w, Machine.on_read_ok_iff.mpr ⟨hw, rfl⟩, ?_⟩
      exact (Machine.quiet_equals hss.fromEngine depth v w).bind_ok_iff.mpr ⟨true, hvw, hrest⟩

theorem equalsOwn_iff {depth : Nat} {c : ClassDecl} {this : ObjectRef} {other : Value} :
    ((Machine.holding ss).equalsOwn ((Machine.holding ss).invoke depth) c.name
        (c.participants .equality) this other).on h = (.ok true, h) ↔
      .object this = other ∨ (Machine.holding ss).Resembles h depth c this other := by
  unfold Machine.equalsOwn
  split
  · rename_i hsame
    simp [hsame]
  · rename_i hsame
    rw [or_iff_right hsame]
    split
    · rename_i that
      split
      · rename_i hinstance
        rw [hss.agreeVia_iff]
        constructor
        · intro hagree
          exact ⟨that, rfl, hinstance, hagree⟩
        · rintro ⟨_, heq, -, hagree⟩
          cases heq
          exact hagree
      · rename_i hinstance
        constructor
        · intro hfalse
          cases hfalse
        · rintro ⟨_, heq, hyes, -⟩
          cases heq
          exact absurd hyes hinstance
    · rename_i hne
      constructor
      · intro hfalse
        cases hfalse
      · rintro ⟨that, rfl, -⟩
        exact absurd rfl (hne that)

theorem equatesFrom_succ {depth : Nat} {start : Option ClassName} {c : ClassDecl}
    {options : EqualityOptions} (hc : (Machine.holding ss).ComparesFrom start c options)
    {this : ObjectRef} {other : Value} :
    (Machine.holding ss).EquatesFrom h (depth + 1) start this other ↔
      (options.callSuper = true →
        (Machine.holding ss).EquatesFrom h depth c.superclass this other) ∧
      (.object this = other ∨ (Machine.holding ss).Resembles h depth c this other) := by
  rw [Machine.EquatesFrom, Machine.invoke, Machine.equalsFrom_of_lookup _ hc.equals,
    Machine.equalsBody, ← hss.equalsOwn_iff]
  cases options.callSuper with
  | false => simp
  | true =>
    rw [if_pos rfl, (Machine.quiet_equalsFrom hss.fromEngine depth _ _ _).bind_ok_iff]
    constructor
    · rintro ⟨b, hb, hrest⟩
      cases b with
      | true => exact ⟨fun _ => hb, hrest⟩
      | false => cases hrest
    · rintro ⟨hsuper, hown⟩
      exact ⟨true, hsuper rfl, hown⟩

/-- Where equality holds, either nothing compares and the objects are the same, or the first class
that compares has found them alike with a smaller bound. -/
theorem equatesFrom_cases {depth : Nat} {start : Option ClassName} {this : ObjectRef}
    {other : Value} (heq : (Machine.holding ss).EquatesFrom h depth start this other) :
    ((Machine.holding ss).lookupFrom start .equals = none ∧ .object this = other) ∨
    ∃ below c options, depth = below + 1 ∧ (Machine.holding ss).ComparesFrom start c options ∧
      (options.callSuper = true →
        (Machine.holding ss).EquatesFrom h below c.superclass this other) ∧
      (.object this = other ∨ (Machine.holding ss).Resembles h below c this other) := by
  rcases hss.comparesFrom_or_none start with ⟨hnone, -⟩ | ⟨c, options, hc⟩
  · exact .inl ⟨hnone, (equatesFrom_of_none hnone).mp heq⟩
  · cases depth with
    | zero => exact absurd heq (not_equatesFrom_zero hc)
    | succ below => exact .inr ⟨below, c, options, rfl, hc, (hss.equatesFrom_succ hc).mp heq⟩

end IsProgram

end Memberwise

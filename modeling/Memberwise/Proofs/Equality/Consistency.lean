import Memberwise.Proofs.Equality.Laws

/-!
# Equal values have equal hashes

Equality and hash of a class walk the same participants and ask the same superclass. Where equality
holds, the hash of the right operand therefore comes about by the same steps as that of the left
one, and with calls nested no deeper.
-/

namespace Memberwise

open Eval

namespace Machine

variable (m : Machine) (h : Heap)

def Hashes (depth : Nat) (v : Value) (x : Int32) : Prop := (m.hash depth v).on h = (.ok x, h)

def HashesFrom (depth : Nat) (start : Option ClassName) (this : ObjectRef) (x : Int32) : Prop :=
  (m.hashFrom (m.invoke depth) start this).on h = (.ok x, h)

def Folds (depth : Nat) (this : ObjectRef) (participants : List Participant) (x y : Int32) : Prop :=
  (m.foldHashVia (m.invoke depth) this participants x).on h = (.ok y, h)

variable {m h}

theorem HashesFrom.congr {depth : Nat} {start start' : Option ClassName}
    (hlookup : m.lookupFrom start .hash = m.lookupFrom start' .hash) {this : ObjectRef} {x : Int32}
    (hx : m.HashesFrom h depth start this x) : m.HashesFrom h depth start' this x := by
  rwa [HashesFrom, hashFrom, ← superVia_congr hlookup]

variable (m h)

/-- From a class upwards, an equal object has the hash that the object has. -/
def ConsistentFrom (objects : Set ObjectRef) (depth depth' : Nat) : Prop :=
  ∀ start, ∀ this that : ObjectRef, this ∈ objects → that ∈ objects →
    m.EquatesFrom h depth start this (.object that) →
    ∀ x, m.HashesFrom h depth' start this x → m.HashesFrom h depth' start that x

end Machine

namespace IsProgram

variable {ss : List ClassSynthesis} (hss : IsProgram ss) {h : Heap} {objects : Set ObjectRef}

theorem hashes_object {depth : Nat} {this : ObjectRef} {x : Int32} :
    (Machine.holding ss).Hashes h depth (.object this) x ↔
      (Machine.holding ss).HashesFrom h depth (some this.cls) this x := by
  rw [Machine.Hashes, Machine.hash, Machine.hashVia_object _ (root_holding ss)]
  rfl

theorem not_hashesFrom_zero {start : Option ClassName} {c : ClassDecl} {options : EqualityOptions}
    (hc : (Machine.holding ss).ComparesFrom start c options) {this : ObjectRef} {x : Int32} :
    ¬ (Machine.holding ss).HashesFrom h 0 start this x := by
  rw [Machine.HashesFrom, Machine.hashFrom, Machine.superVia_of_some _ .hash hc.hash]
  intro hx
  cases hx

include hss

theorem folds_cons {depth : Nat} {this : ObjectRef} {p : Participant} {ps : List Participant}
    {x z : Int32} :
    (Machine.holding ss).Folds h depth this (p :: ps) x z ↔
      ∃ v y, h.guarded this p.property = .ok v ∧ (Machine.holding ss).Hashes h depth v y ∧
        (Machine.holding ss).Folds h depth this ps (x * Synthesis.hashMultiplier + y) z := by
  rw [Machine.Folds, Machine.foldHashVia, (Quiet.read _).bind_ok_iff]
  constructor
  · rintro ⟨v, hv, hrest⟩
    obtain ⟨y, hy, hrest⟩ := (Machine.quiet_hash hss.fromEngine depth v).bind_ok_iff.mp hrest
    exact ⟨v, y, (Machine.on_read_ok_iff.mp hv).1, hy, hrest⟩
  · rintro ⟨v, y, hv, hy, hrest⟩
    refine ⟨v, Machine.on_read_ok_iff.mpr ⟨hv, rfl⟩, ?_⟩
    exact (Machine.quiet_hash hss.fromEngine depth v).bind_ok_iff.mpr ⟨y, hy, hrest⟩

theorem hashesFrom_succ {depth : Nat} {start : Option ClassName} {c : ClassDecl}
    {options : EqualityOptions} (hc : (Machine.holding ss).ComparesFrom start c options)
    {this : ObjectRef} {y : Int32} :
    (Machine.holding ss).HashesFrom h (depth + 1) start this y ↔
      ∃ x, (if options.callSuper then (Machine.holding ss).HashesFrom h depth c.superclass this x
          else x = Synthesis.hashSeed) ∧
        (Machine.holding ss).Folds h depth this (c.participants .equality) x y := by
  rw [Machine.HashesFrom, Machine.invoke, Machine.hashFrom_of_lookup _ hc.hash, Machine.hashBody]
  cases options.callSuper with
  | false => simp [Machine.Folds]
  | true =>
    rw [if_pos rfl, (Machine.quiet_hashFrom hss.fromEngine depth _ _).bind_ok_iff]
    rfl

/-- Instances for whose equality one body answers have one body for the hash as well. -/
theorem lookupFrom_hash_of_equals {cls cls' : ClassName}
    (hlookup : (Machine.holding ss).lookupFrom (some cls) .equals =
      (Machine.holding ss).lookupFrom (some cls') .equals) :
    (Machine.holding ss).lookupFrom (some cls) .hash =
      (Machine.holding ss).lookupFrom (some cls') .hash := by
  rcases hss.comparesFrom_or_none (some cls) with ⟨hequals, hhash⟩ | ⟨c, options, hc⟩ <;>
    rcases hss.comparesFrom_or_none (some cls') with ⟨hequals', hhash'⟩ | ⟨d, options', hd⟩
  · rw [hhash, hhash']
  · rw [hequals, hd.equals] at hlookup
    cases hlookup
  · rw [hequals', hc.equals] at hlookup
    cases hlookup
  · rw [hc.equals, hd.equals] at hlookup
    have hname := ClassDecl.equalsMethod_body_inj (Option.some.inj hlookup)
    rw [hc.hash, hd.hash, ← hc.compares.hash, ← hd.compares.hash, hname]

theorem hashes_of_equates_of {depth depth' : Nat}
    (hshares : (Machine.holding ss).SharesEquality objects)
    (hfrom : (Machine.holding ss).ConsistentFrom h objects depth depth') {v w : Value}
    (hv : v.Within objects) (hw : w.Within objects)
    (heq : (Machine.holding ss).Equates h depth v w) {x : Int32}
    (hx : (Machine.holding ss).Hashes h depth' v x) :
    (Machine.holding ss).Hashes h depth' w x := by
  cases v with
  | object r =>
    rcases hss.exists_of_equates hshares (hv r rfl) hw heq with rfl | ⟨s, hs, rfl, hlookup⟩
    · exact hx
    · rw [equates_object] at heq
      rw [hashes_object] at hx ⊢
      have hsx := hfrom (some r.cls) r s (hv r rfl) hs heq x hx
      exact hsx.congr (hss.lookupFrom_hash_of_equals hlookup.symm)
  | _ =>
    obtain rfl := (equates_of_ne_object (by simp)).mp heq
    exact hx

theorem folds_of_agree {depth depth' : Nat} (hclosed : h.Closed objects)
    (hshares : (Machine.holding ss).SharesEquality objects)
    (hfrom : (Machine.holding ss).ConsistentFrom h objects depth depth') {this that : ObjectRef}
    (hthis : this ∈ objects) (hthat : that ∈ objects) {participants : List Participant}
    (hagree : (Machine.holding ss).Agree h depth participants this that) {x z : Int32}
    (hz : (Machine.holding ss).Folds h depth' this participants x z) :
    (Machine.holding ss).Folds h depth' that participants x z := by
  induction participants generalizing x with
  | nil => exact hz
  | cons p ps ih =>
    rw [Machine.agree_cons] at hagree
    rw [hss.folds_cons] at hz ⊢
    obtain ⟨⟨v, w, hv, hw, hvw⟩, hrest⟩ := hagree
    obtain ⟨v', y, hv', hy, hfold⟩ := hz
    obtain rfl : v = v' := Except.ok.inj (hv.symm.trans hv')
    have hyw := hss.hashes_of_equates_of hshares hfrom (hclosed.guarded hthis hv)
      (hclosed.guarded hthat hw) hvw hy
    exact ⟨w, y, hw, hyw, ih hrest hfold⟩

theorem consistentFrom (hclosed : h.Closed objects)
    (hshares : (Machine.holding ss).SharesEquality objects) (depth depth' : Nat) :
    (Machine.holding ss).ConsistentFrom h objects depth depth' := by
  induction depth using Nat.strong_induction_on generalizing depth' with
  | h depth ih =>
    intro start this that hthis hthat heq z hz
    rcases hss.equatesFrom_cases heq with
      ⟨-, hsame⟩ | ⟨depth, c, options, rfl, hc, hsuper, hsame | ⟨_, ⟨⟩, -, hagree⟩⟩
    · obtain rfl := Value.object.inj hsame
      exact hz
    · obtain rfl := Value.object.inj hsame
      exact hz
    · cases depth' with
      | zero => exact absurd hz (not_hashesFrom_zero hc)
      | succ depth' =>
        have ih := ih depth depth.lt_succ_self depth'
        rw [hss.hashesFrom_succ hc] at hz ⊢
        obtain ⟨x, hx, hfold⟩ := hz
        refine ⟨x, ?_, hss.folds_of_agree hclosed hshares ih hthis hthat hagree hfold⟩
        split
        · rename_i hcall
          rw [if_pos hcall] at hx
          exact ih c.superclass this that hthis hthat (hsuper hcall) x hx
        · rename_i hcall
          rwa [if_neg hcall] at hx

/-- Equal values have equal hashes on objects that share equality: all those of the heap, or as many
as the operands lead to. -/
theorem hash_of_equals (hclosed : h.Closed objects)
    (hshares : (Machine.holding ss).SharesEquality objects) {a b : Value}
    (ha : a.Within objects) (hb : b.Within objects) {h₁ h₂ : Heap} {x : Int32}
    (heq : Ends ((Machine.holding ss).equals · a b) h (.ok true) h₁)
    (hx : Ends ((Machine.holding ss).hash · a) h (.ok x) h₂) :
    Ends ((Machine.holding ss).hash · b) h (.ok x) h := by
  obtain ⟨-, depth, heq⟩ := hss.ends_equals_iff.mp heq
  obtain ⟨depth', hx⟩ := hx
  obtain rfl := (Machine.quiet_hash hss.fromEngine depth' a).heap_eq hx
  have hfrom := hss.consistentFrom hclosed hshares depth depth'
  exact ⟨depth', hss.hashes_of_equates_of hshares hfrom ha hb heq hx⟩

end IsProgram

theorem IsProgram.hash_of_equals_chain :
    Ends ((Machine.holding Chain.program).hash · (.object Chain.knotted)) Chain.heap
      (.ok 16266847) Chain.heap := by
  have heq : Ends ((Machine.holding Chain.program).equals · (.object Chain.before)
      (.object Chain.knotted)) Chain.heap (.ok true) Chain.heap := ⟨4, rfl⟩
  have hx : Ends ((Machine.holding Chain.program).hash · (.object Chain.before)) Chain.heap
      (.ok 16266847) Chain.heap := ⟨4, rfl⟩
  exact Chain.isProgram.hash_of_equals Chain.closed Chain.sharesEquality
    (Chain.within_object (by decide)) (Chain.within_object (by decide)) heq hx

end Memberwise

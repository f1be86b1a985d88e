import Mathlib.Data.Set.Insert
import Memberwise.Proofs.Machine.Outcome

/-!
# Evaluations that agree on two heaps

An evaluation is steady between two heaps if it ends alike on both, leaves both alone and stops for
allowed reasons only. With one heap taken twice this bounds the faults, or says that the bound on
the depth of calls is not reached; with all reasons allowed it says that the heaps cannot be told
apart.
-/

namespace Memberwise.Eval

variable {α β : Type} {h h' : Heap} {allowed : Set Halt}

def Steady (h h' : Heap) (allowed : Set Halt) (x : Eval α) : Prop :=
  ∃ r, x.on h = (r, h) ∧ x.on h' = (r, h') ∧ ∀ halt, r = .error halt → halt ∈ allowed

namespace Steady

theorem pure (a : α) : Steady h h' allowed (pure a) := ⟨.ok a, rfl, rfl, nofun⟩

theorem throw {halt : Halt} (hallowed : halt ∈ allowed) :
    Steady h h' allowed (throw halt : Eval α) := by
  refine ⟨.error halt, rfl, rfl, ?_⟩
  rintro _ ⟨⟩
  exact hallowed

theorem symm {x : Eval α} (hx : Steady h h' allowed x) : Steady h' h allowed x := by
  obtain ⟨r, hr, hr', hhalt⟩ := hx
  exact ⟨r, hr', hr, hhalt⟩

theorem bind {x : Eval α} {f : α → Eval β} (hx : Steady h h' allowed x)
    (hf : ∀ a, x.on h = (.ok a, h) → Steady h h' allowed (f a)) :
    Steady h h' allowed (x >>= f) := by
  obtain ⟨r, hr, hr', hhalt⟩ := hx
  cases r with
  | ok a =>
    obtain ⟨r, hrest, hrest', hhalt⟩ := hf a hr
    refine ⟨r, ?_, ?_, hhalt⟩
    · rw [on_bind, hr]
      exact hrest
    · rw [on_bind, hr']
      exact hrest'
  | error halt =>
    refine ⟨.error halt, ?_, ?_, ?_⟩
    · rw [on_bind, hr]
    · rw [on_bind, hr']
    · rintro _ ⟨⟩
      exact hhalt halt rfl

theorem map {x : Eval α} (hx : Steady h h' allowed x) (f : α → β) :
    Steady h h' allowed (x >>= fun a => Pure.pure (f a)) :=
  hx.bind fun a _ => .pure (f a)

theorem mapM {f : α → Eval β} {as : List α} (hf : ∀ a ∈ as, Steady h h' allowed (f a)) :
    Steady h h' allowed (as.mapM f) := by
  induction as with
  | nil => exact .pure []
  | cons a as ih =>
    rw [List.mapM_cons]
    refine (hf a List.mem_cons_self).bind fun b _ => ?_
    exact (ih fun a' ha' => hf a' (List.mem_cons_of_mem a ha')).map _

theorem read {f : Heap → Except Fault α} (hsame : f h = f h')
    (hfault : ∀ fault, f h = .error fault → .fault fault ∈ allowed) :
    Steady h h' allowed (Eval.read f) := by
  refine ⟨(f h).mapError .fault, on_read f h, ?_, ?_⟩
  · rw [on_read, hsame]
  · intro halt hhalt
    cases hf : f h with
    | ok a =>
      rw [hf] at hhalt
      cases hhalt
    | error fault =>
      rw [hf] at hhalt
      cases hhalt
      exact hfault fault hf

theorem read_bind {f : Heap → Except Fault α} {g : α → Eval β}
    (hread : Steady h h' allowed (Eval.read f))
    (hg : ∀ a, f h = .ok a → Steady h h' allowed (g a)) :
    Steady h h' allowed (Eval.read f >>= g) := by
  refine hread.bind fun a ha => hg a ?_
  rw [on_read] at ha
  cases hf : f h with
  | ok b =>
    rw [hf] at ha
    cases ha
    rfl
  | error fault =>
    rw [hf] at ha
    cases ha

end Steady

variable {op : Nat → Eval α}

theorem fault_mem_of_steady (hop : ∀ depth, Steady h h' allowed (op depth)) {fault : Fault}
    (hr : Yields op h (.error fault)) : .fault fault ∈ allowed := by
  obtain ⟨h₁, depth, hr⟩ := hr
  obtain ⟨r, hsteady, -, hhalt⟩ := hop depth
  rw [hsteady] at hr
  cases hr
  exact hhalt _ rfl

theorem yields_of_steady (hop : ∀ depth, Steady h h' allowed (op depth)) {r : Except Fault α}
    (hr : Yields op h r) : Yields op h' r := by
  obtain ⟨h₁, depth, hr⟩ := hr
  obtain ⟨r', hsteady, hsteady', -⟩ := hop depth
  rw [hsteady, Prod.mk.injEq] at hr
  refine ⟨h', depth, ?_⟩
  rw [hsteady', hr.1]

theorem yields_iff_of_steady (hop : ∀ depth, Steady h h' allowed (op depth))
    (r : Except Fault α) : Yields op h r ↔ Yields op h' r :=
  ⟨yields_of_steady hop, yields_of_steady fun depth => (hop depth).symm⟩

theorem exists_ends_of_steady {depth : Nat}
    (hop : Steady h h' {halt | halt ≠ .tooDeep} (op depth)) : ∃ r, Ends op h r h := by
  obtain ⟨r, hr, -, hhalt⟩ := hop
  cases r with
  | ok a => exact ⟨.ok a, depth, hr⟩
  | error halt =>
    cases halt with
    | fault fault => exact ⟨.error fault, depth, hr⟩
    | tooDeep => exact absurd rfl (hhalt .tooDeep rfl)

end Memberwise.Eval

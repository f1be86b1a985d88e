import Mathlib.Data.List.Forall2
import Memberwise.Proofs.Machine.Depth

/-!
# Outcomes of evaluations in sequence

A sequence ends as its members do one by one, each on the heap that the one before has left: in
the results of all of them, or in the first fault. Evaluations that leave the heap alone all start
on the same one. No bound has to be shared between them, since a larger bound changes nothing.
-/

namespace Memberwise

namespace Eval

variable {α β : Type}

theorem Below.mapM {f g : α → Eval β} (hfg : ∀ a, Below (f a) (g a)) (as : List α) :
    Below (as.mapM f) (as.mapM g) := by
  induction as with
  | nil => exact .refl _
  | cons a as ih =>
    rw [List.mapM_cons, List.mapM_cons]
    exact (hfg a).bind fun _ => ih.bind fun _ => .refl _

theorem Deepening.bind {x : Nat → Eval α} {f : Nat → α → Eval β} (hx : Deepening x)
    (hf : ∀ a, Deepening (f · a)) : Deepening fun depth => x depth >>= f depth :=
  fun depth depth' hle => (hx depth depth' hle).bind fun a => hf a depth depth' hle

theorem Deepening.const (x : Eval α) : Deepening fun _ => x := fun _ _ _ => .refl x

theorem Deepening.ite {x y : Nat → Eval α} (hx : Deepening x) (hy : Deepening y) (b : Bool) :
    Deepening fun depth => if b then x depth else y depth := by
  cases b with
  | true => exact hx
  | false => exact hy

/-- The first fault is the last thing that happens. -/
theorem ends_bind_iff_exists_heap {x : Nat → Eval α} {f : Nat → α → Eval β} (hx : Deepening x)
    (hf : ∀ a, Deepening (f · a)) {h h' : Heap} {r : Except Fault β} :
    Ends (fun depth => x depth >>= f depth) h r h' ↔
      (∃ a h₁, Ends x h (.ok a) h₁ ∧ Ends (f · a) h₁ r h') ∨
      ∃ e, r = .error e ∧ Ends x h (.error e) h' := by
  constructor
  · rintro ⟨depth, hr⟩
    rw [on_bind] at hr
    cases hxr : (x depth).on h with
    | mk r₁ h₁ =>
      rw [hxr] at hr
      cases r₁ with
      | ok a => exact .inl ⟨a, h₁, ⟨depth, hxr⟩, depth, hr⟩
      | error halt =>
        cases r with
        | ok b => cases hr
        | error e =>
          obtain ⟨rfl, rfl⟩ : halt = .fault e ∧ h₁ = h' := by simpa using hr
          exact .inr ⟨e, rfl, depth, hxr⟩
  · rintro (⟨a, h₁, ⟨d₁, ha⟩, d₂, hr⟩ | ⟨e, rfl, depth, he⟩)
    · -- a bound that is enough for both
      refine ⟨max d₁ d₂, ?_⟩
      have ha := hx.on_eq (Nat.le_max_left d₁ d₂) ha
      have hr := (hf a).on_eq (Nat.le_max_right d₁ d₂) hr
      rw [on_bind, ha]
      exact hr
    · refine ⟨depth, ?_⟩
      rw [on_bind, he]
      rfl

theorem Ends.heap_eq {x : Nat → Eval α} (hquiet : ∀ depth, Quiet (x depth)) {h h' : Heap}
    {r : Except Fault α} (hr : Ends x h r h') : h' = h := by
  obtain ⟨depth, hr⟩ := hr
  exact (hquiet depth).heap_eq hr

theorem ends_bind_iff {x : Nat → Eval α} {f : Nat → α → Eval β} (hquiet : ∀ depth, Quiet (x depth))
    (hx : Deepening x) (hf : ∀ a, Deepening (f · a)) {h h' : Heap} {r : Except Fault β} :
    Ends (fun depth => x depth >>= f depth) h r h' ↔
      (∃ a, Ends x h (.ok a) h ∧ Ends (f · a) h r h') ∨
      ∃ e, r = .error e ∧ h' = h ∧ Ends x h (.error e) h := by
  rw [ends_bind_iff_exists_heap hx hf]
  constructor
  · rintro (⟨a, h₁, ha, hr⟩ | ⟨e, rfl, he⟩)
    · obtain rfl := ha.heap_eq hquiet
      exact .inl ⟨a, ha, hr⟩
    · obtain rfl := he.heap_eq hquiet
      exact .inr ⟨e, rfl, rfl, he⟩
  · rintro (⟨a, ha, hr⟩ | ⟨e, rfl, rfl, he⟩)
    · exact .inl ⟨a, h, ha, hr⟩
    · exact .inr ⟨e, rfl, he⟩

theorem ends_lift_iff {x r : Except Fault α} {h h' : Heap} :
    Ends (fun _ => lift x) h r h' ↔ r = x ∧ h' = h := by
  constructor
  · rintro ⟨_, hr⟩
    rw [on_lift, Prod.mk.injEq] at hr
    refine ⟨?_, hr.2.symm⟩
    cases x <;> cases r <;> simp_all
  · rintro ⟨rfl, rfl⟩
    exact ⟨0, on_lift r h'⟩

theorem ends_pure_iff {a : α} {h h' : Heap} {r : Except Fault α} :
    Ends (fun _ => pure a) h r h' ↔ r = .ok a ∧ h' = h := ends_lift_iff (x := .ok a)

section Read

variable {f : Heap → Except Fault α} {g : Nat → α → Eval β} {h h' : Heap} {r : Except Fault β}

theorem ends_read_bind_of_ok {a : α} (ha : f h = .ok a) :
    Ends (fun depth => read f >>= g depth) h r h' ↔ Ends (g · a) h r h' :=
  ends_congr (fun depth => by rw [on_read_bind, ha]) r h'

theorem ends_read_bind_of_error {e : Fault} (he : f h = .error e) :
    Ends (fun depth => read f >>= g depth) h r h' ↔ r = .error e ∧ h' = h := by
  have hstops (depth : Nat) : (read f >>= g depth).on h = (lift (.error e)).on h := by
    rw [on_read_bind, he]
    rfl
  rw [ends_congr hstops, ends_lift_iff]

end Read

/-- What comes after a test that fails is not evaluated. -/
theorem ends_and_iff {x y : Nat → Eval Bool} (hx : Deepening x) (hy : Deepening y) {h h' : Heap}
    {r : Except Fault Bool} :
    Ends (fun depth => do if ← x depth then y depth else pure false) h r h' ↔
      (∃ h₁, Ends x h (.ok true) h₁ ∧ Ends y h₁ r h') ∨
      r = .ok false ∧ Ends x h (.ok false) h' ∨
      ∃ e, r = .error e ∧ Ends x h (.error e) h' := by
  rw [ends_bind_iff_exists_heap (f := fun depth b => if b then y depth else pure false) hx
    (hy.ite (.const _))]
  constructor
  · rintro (⟨b, h₁, hb, hrest⟩ | hfault)
    · cases b with
      | true => exact .inl ⟨h₁, hb, hrest⟩
      | false =>
        obtain ⟨rfl, rfl⟩ := ends_pure_iff.mp hrest
        exact .inr (.inl ⟨rfl, hb⟩)
    · exact .inr (.inr hfault)
  · rintro (⟨h₁, hb, hrest⟩ | ⟨rfl, hb⟩ | hfault)
    · exact .inl ⟨true, h₁, hb, hrest⟩
    · exact .inl ⟨false, h', hb, ends_pure_iff.mpr ⟨rfl, rfl⟩⟩
    · exact .inr hfault

theorem ends_bind_lift_iff {x : Nat → Eval α} (hx : Deepening x) (f : α → Except Fault β)
    {h h' : Heap} {r : Except Fault β} :
    Ends (fun depth => do lift (f (← x depth))) h r h' ↔ ∃ a, r = a >>= f ∧ Ends x h a h' := by
  rw [ends_bind_iff_exists_heap (f := fun _ a => lift (f a)) hx fun a => .const _]
  simp only [ends_lift_iff]
  constructor
  · rintro (⟨a, h₁, ha, rfl, rfl⟩ | ⟨e, rfl, he⟩)
    · exact ⟨.ok a, rfl, ha⟩
    · exact ⟨.error e, rfl, he⟩
  · rintro ⟨e | a, rfl, ha⟩
    · exact .inr ⟨e, rfl, ha⟩
    · exact .inl ⟨a, h', ha, rfl, rfl⟩

theorem ends_map_iff {x : Nat → Eval α} (hx : Deepening x) (f : α → β) {h h' : Heap}
    {r : Except Fault β} :
    Ends (fun depth => do return f (← x depth)) h r h' ↔ ∃ a, r = f <$> a ∧ Ends x h a h' := by
  simp only [map_eq_pure_bind]
  exact ends_bind_lift_iff hx fun a => .ok (f a)

section Map

variable {x : Nat → Eval α} (hquiet : ∀ depth, Quiet (x depth)) (hx : Deepening x) (f : α → β)
  {h h' : Heap}

include hquiet hx

theorem ends_map_ok_iff {b : β} :
    Ends (fun depth => do return f (← x depth)) h (.ok b) h' ↔
      h' = h ∧ ∃ a, Ends x h (.ok a) h ∧ b = f a := by
  rw [ends_map_iff hx]
  constructor
  · rintro ⟨e | a, hb, ha⟩
    · cases hb
    · obtain rfl := ha.heap_eq hquiet
      exact ⟨rfl, a, ha, Except.ok.inj hb⟩
  · rintro ⟨rfl, a, ha, rfl⟩
    exact ⟨.ok a, rfl, ha⟩

theorem ends_map_error_iff {e : Fault} :
    Ends (fun depth => do return f (← x depth)) h (.error e) h' ↔
      h' = h ∧ Ends x h (.error e) h := by
  rw [ends_map_iff hx]
  constructor
  · rintro ⟨e' | a, he, hr⟩
    · cases he
      obtain rfl := hr.heap_eq hquiet
      exact ⟨rfl, hr⟩
    · cases he
  · rintro ⟨rfl, he⟩
    exact ⟨.error e, rfl, he⟩

end Map

section MapM

variable {op : Nat → α → Eval β} (hquiet : ∀ depth a, Quiet (op depth a))
  (hop : ∀ a, Deepening (op · a)) {as : List α} {h h' : Heap}

include hop

theorem deepening_mapM (as : List α) : Deepening fun depth => as.mapM (op depth) :=
  fun depth depth' hle => .mapM (fun a => hop a depth depth' hle) as

include hquiet

theorem ends_mapM_ok_iff {bs : List β} :
    Ends (fun depth => as.mapM (op depth)) h (.ok bs) h' ↔
      h' = h ∧ List.Forall₂ (fun a b => Ends (op · a) h (.ok b) h) as bs := by
  induction as generalizing bs h' with
  | nil =>
    simp only [List.mapM_nil, ends_pure_iff, Except.ok.injEq, List.forall₂_nil_left_iff]
    exact and_comm
  | cons a as ih =>
    have hrest (depth : Nat) : Quiet (as.mapM (op depth)) := .mapM (hquiet depth) as
    simp only [List.mapM_cons]
    have hcons (b : β) : Deepening fun depth => do return b :: (← as.mapM (op depth)) :=
      (deepening_mapM hop as).bind fun bs => .const _
    rw [ends_bind_iff (f := fun depth b => do return b :: (← as.mapM (op depth))) (hquiet · a)
      (hop a) hcons]
    simp only [ends_map_ok_iff hrest (deepening_mapM hop as), ih, reduceCtorEq, false_and,
      exists_false, or_false, true_and, List.forall₂_cons_left_iff]
    constructor
    · rintro ⟨b, hb, rfl, bs, hbs, rfl⟩
      exact ⟨rfl, b, bs, hb, hbs, rfl⟩
    · rintro ⟨rfl, b, bs, hb, hbs, rfl⟩
      exact ⟨b, hb, rfl, bs, hbs, rfl⟩

theorem ends_mapM_error_iff {e : Fault} :
    Ends (fun depth => as.mapM (op depth)) h (.error e) h' ↔
      h' = h ∧ ∃ before a after bs, as = before ++ a :: after ∧
        List.Forall₂ (fun a b => Ends (op · a) h (.ok b) h) before bs ∧
        Ends (op · a) h (.error e) h := by
  induction as generalizing h' with
  | nil => simp [ends_pure_iff]
  | cons a as ih =>
    have hrest (depth : Nat) : Quiet (as.mapM (op depth)) := .mapM (hquiet depth) as
    simp only [List.mapM_cons]
    have hcons (b : β) : Deepening fun depth => do return b :: (← as.mapM (op depth)) :=
      (deepening_mapM hop as).bind fun bs => .const _
    rw [ends_bind_iff (f := fun depth b => do return b :: (← as.mapM (op depth))) (hquiet · a)
      (hop a) hcons]
    simp only [ends_map_error_iff hrest (deepening_mapM hop as), ih, true_and]
    constructor
    · rintro (⟨b, hb, rfl, before, a', after, bs, rfl, hbs, he⟩ | ⟨_, he', rfl, he⟩)
      · exact ⟨rfl, a :: before, a', after, b :: bs, rfl, .cons hb hbs, he⟩
      · cases he'
        exact ⟨rfl, [], a, as, [], rfl, .nil, he⟩
    · rintro ⟨rfl, before, a', after, bs, heq, hbs, he⟩
      cases before with
      | nil =>
        cases heq
        exact .inr ⟨e, rfl, rfl, he⟩
      | cons first before =>
        cases heq
        cases hbs with
        | cons hb hbs => exact .inl ⟨_, hb, rfl, before, a', after, _, rfl, hbs, he⟩

end MapM

end Eval

end Memberwise

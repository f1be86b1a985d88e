import Mathlib.Data.List.Perm.Basic
import Mathlib.Data.List.Nodup
import Mathlib.Data.Nat.Find
import Mathlib.Logic.Relation
import Memberwise.Machine.Basic

/-!
# Superclasses

The walk up from a class is bounded by the number of registrations. On a shortest way up no class
comes twice and every class but the last is registered, so the bound cuts nothing off, on cyclic
registrations either.
-/

namespace Memberwise

namespace Machine

variable (m : Machine)

def Parent (cls parent : ClassName) : Prop := m.parents.get? cls = some parent

def ancestor? (cls : ClassName) : Nat → Option ClassName
  | 0 => some cls
  | k + 1 => (ancestor? cls k).bind m.parents.get?

theorem ancestor?_add (cls : ClassName) (i j : Nat) :
    m.ancestor? cls (i + j) = (m.ancestor? cls i).bind fun c => m.ancestor? c j := by
  induction j with
  | zero => cases m.ancestor? cls i <;> rfl
  | succ j ih =>
    change (m.ancestor? cls (i + j)).bind _ = _
    rw [ih, Option.bind_assoc]
    rfl

theorem ancestor?_succ (cls : ClassName) (k : Nat) :
    m.ancestor? cls (k + 1) = (m.parents.get? cls).bind fun c => m.ancestor? c k := by
  rw [Nat.add_comm, ancestor?_add]
  rfl

theorem mem_climb_iff {n : Nat} {cls target : ClassName} :
    target ∈ m.climb n cls ↔ ∃ k < n, m.ancestor? cls k = some target := by
  induction n generalizing cls with
  | zero => simp [climb]
  | succ n ih =>
    rw [climb, List.mem_cons]
    constructor
    · rintro (rfl | h)
      · exact ⟨0, Nat.succ_pos n, rfl⟩
      · cases hp : m.parents.get? cls with
        | none => simp [hp] at h
        | some parent =>
          rw [hp] at h
          obtain ⟨k, hk, ha⟩ := ih.mp h
          refine ⟨k + 1, Nat.succ_lt_succ hk, ?_⟩
          rw [ancestor?_succ, hp]
          exact ha
    · rintro ⟨k, hk, ha⟩
      cases k with
      | zero => exact .inl (Option.some.inj ha).symm
      | succ k =>
        rw [ancestor?_succ] at ha
        obtain ⟨parent, hp, ha⟩ := Option.bind_eq_some_iff.mp ha
        rw [hp]
        exact .inr (ih.mpr ⟨k, Nat.lt_of_succ_lt_succ hk, ha⟩)

theorem exists_ancestor?_iff {cls target : ClassName} :
    (∃ k, m.ancestor? cls k = some target) ↔ Relation.ReflTransGen m.Parent cls target := by
  constructor
  · rintro ⟨k, hk⟩
    induction k generalizing target with
    | zero =>
      cases hk
      exact .refl
    | succ k ih =>
      obtain ⟨c, hc, hp⟩ := Option.bind_eq_some_iff.mp hk
      exact (ih hc).tail hp
  · intro h
    induction h with
    | refl => exact ⟨0, rfl⟩
    | tail _ hp ih =>
      obtain ⟨k, hk⟩ := ih
      exact ⟨k + 1, Option.bind_eq_some_iff.mpr ⟨_, hk, hp⟩⟩

/-- On a shortest way up no class comes twice. -/
theorem ancestor?_injOn {cls target : ClassName} {k : Nat} (hk : m.ancestor? cls k = some target)
    (hmin : ∀ i < k, m.ancestor? cls i ≠ some target) {i j : Nat} (hij : i < j) (hjk : j < k) :
    m.ancestor? cls i ≠ m.ancestor? cls j := by
  intro heq
  apply hmin (i + (k - j)) (by omega)
  rw [ancestor?_add, heq, ← ancestor?_add, Nat.add_sub_cancel' (Nat.le_of_lt hjk), hk]

theorem exists_ancestor?_le {cls target : ClassName} (h : ∃ k, m.ancestor? cls k = some target) :
    ∃ k ≤ m.parents.size, m.ancestor? cls k = some target := by
  classical
  refine ⟨Nat.find h, ?_, Nat.find_spec h⟩
  have hk := Nat.find_spec h
  have hmin : ∀ i < Nat.find h, m.ancestor? cls i ≠ some target := fun i hi => Nat.find_min h hi
  generalize Nat.find h = k at hk hmin
  have hnodup : ((List.range k).map (m.ancestor? cls)).Nodup := by
    refine List.Nodup.map_on ?_ List.nodup_range
    intro i hi j hj heq
    rw [List.mem_range] at hi hj
    rcases Nat.lt_trichotomy i j with hij | rfl | hji
    · exact absurd heq (m.ancestor?_injOn hk hmin hij hj)
    · rfl
    · exact absurd heq.symm (m.ancestor?_injOn hk hmin hji hi)
  have hsub : (List.range k).map (m.ancestor? cls) ⊆ m.parents.keys.map some := by
    intro a ha
    obtain ⟨i, hi, rfl⟩ := List.mem_map.mp ha
    rw [List.mem_range] at hi
    have hrest : m.ancestor? cls (i + 1 + (k - (i + 1))) = some target := by
      rw [Nat.add_sub_cancel' hi, hk]
    rw [ancestor?_add] at hrest
    obtain ⟨_, hnext, -⟩ := Option.bind_eq_some_iff.mp hrest
    obtain ⟨c, hc, hp⟩ := Option.bind_eq_some_iff.mp hnext
    rw [hc]
    exact List.mem_map_of_mem (Table.mem_keys_iff.mpr ⟨_, hp⟩)
  have hle := (List.subperm_of_subset hnodup hsub).length_le
  simpa [Table.keys, Table.size] using hle

theorem mem_ancestry_iff {cls target : ClassName} :
    target ∈ m.ancestry cls ↔ Relation.ReflTransGen m.Parent cls target := by
  rw [ancestry, mem_climb_iff, ← exists_ancestor?_iff]
  constructor
  · rintro ⟨k, -, hk⟩
    exact ⟨k, hk⟩
  · intro h
    obtain ⟨k, hle, hk⟩ := m.exists_ancestor?_le h
    exact ⟨k, Nat.lt_succ_of_le hle, hk⟩

theorem isSubclass_iff {cls target : ClassName} :
    m.isSubclass cls target = true ↔ Relation.ReflTransGen m.Parent cls target := by
  rw [← mem_ancestry_iff]
  simp [isSubclass]

theorem mem_ancestry_iff_isSubclass {cls target : ClassName} :
    target ∈ m.ancestry cls ↔ m.isSubclass cls target = true := by
  rw [isSubclass_iff, mem_ancestry_iff]

theorem isSubclass_refl (cls : ClassName) : m.isSubclass cls cls = true :=
  m.isSubclass_iff.mpr .refl

variable {m}

theorem isSubclass_trans {a b c : ClassName} (hab : m.isSubclass a b = true)
    (hbc : m.isSubclass b c = true) : m.isSubclass a c = true := by
  rw [isSubclass_iff] at hab hbc ⊢
  exact hab.trans hbc

theorem isSubclass_parent {cls c parent : ClassName} (hcls : m.isSubclass cls c = true)
    (hparent : m.Parent c parent) : m.isSubclass cls parent = true := by
  rw [isSubclass_iff] at hcls ⊢
  exact hcls.tail hparent

end Machine

end Memberwise

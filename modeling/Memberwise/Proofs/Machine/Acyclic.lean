import Mathlib.Data.Finset.Card
import Mathlib.Data.List.Basic
import Memberwise.Machine.Heap
import Memberwise.Proofs.Machine.Ancestry

/-!
# Relations without cycles

A relation without cycles that leads to finitely many things ranks them: on every step, less can be
reached. It is applied to the superclasses that a machine knows and to the references from object
to object on a heap.
-/

namespace Memberwise

section Rank

variable {α : Type} {R : α → α → Prop}

theorem exists_rank_of_acyclic {targets : List α} (htargets : ∀ a b, R a b → b ∈ targets)
    (hacyclic : ∀ a, ¬ Relation.TransGen R a a) :
    ∃ rank : α → Nat, (∀ a, rank a ≤ targets.length) ∧ ∀ a b, R a b → rank b < rank a := by
  classical
  refine ⟨fun a => (targets.toFinset.filter (Relation.TransGen R a)).card, ?_, ?_⟩
  · intro a
    exact (Finset.card_filter_le _ _).trans (List.toFinset_card_le targets)
  · intro a b hab
    apply Finset.card_lt_card
    refine ⟨?_, ?_⟩
    · intro c hc
      rw [Finset.mem_filter] at hc ⊢
      exact ⟨hc.1, .head hab hc.2⟩
    · intro hsub
      have hb : b ∈ targets.toFinset.filter (Relation.TransGen R a) :=
        Finset.mem_filter.mpr ⟨List.mem_toFinset.mpr (htargets a b hab), .single hab⟩
      exact hacyclic b (Finset.mem_filter.mp (hsub hb)).2

theorem not_transGen_self_of_rank (rank : α → Nat) (hrank : ∀ a b, R a b → rank b < rank a)
    (a : α) : ¬ Relation.TransGen R a a := by
  have hless : ∀ b, Relation.TransGen R a b → rank b < rank a := by
    intro b hab
    induction hab with
    | single hab => exact hrank a _ hab
    | tail _ hbc ih => exact (hrank _ _ hbc).trans ih
  exact fun hcycle => (hless a hcycle).false

end Rank

namespace Machine

def Acyclic (m : Machine) : Prop := ∀ cls, ¬ Relation.TransGen m.Parent cls cls

theorem acyclic_of_rank {m : Machine} (rank : ClassName → Nat)
    (hrank : ∀ e ∈ m.parents.entries, rank e.2 < rank e.1) : m.Acyclic := by
  refine not_transGen_self_of_rank rank ?_
  intro cls parent hparent
  exact hrank (cls, parent) (Table.mem_entries_of_get? hparent)

/-- Whoever is asked above a class has a smaller rank; none is asked above the last one. -/
theorem Acyclic.exists_rank {m : Machine} (hm : m.Acyclic) :
    ∃ rank : Option ClassName → Nat, (∀ start, rank start ≤ m.parents.size + 1) ∧
      ∀ cls cls', m.isSubclass cls cls' = true → rank (m.parents.get? cls') < rank (some cls) := by
  have htargets : ∀ cls parent, m.Parent cls parent → parent ∈ m.parents.entries.map Prod.snd :=
    fun cls parent hparent => List.mem_map_of_mem (Table.mem_entries_of_get? hparent)
  obtain ⟨rank, hbound, hless⟩ := exists_rank_of_acyclic htargets hm
  rw [List.length_map] at hbound
  have hup : ∀ cls cls', Relation.ReflTransGen m.Parent cls cls' → rank cls' ≤ rank cls := by
    intro cls cls' hup
    induction hup with
    | refl => exact le_rfl
    | tail _ hparent ih => exact (hless _ _ hparent).le.trans ih
  refine ⟨fun start => start.elim 0 (rank · + 1), ?_, ?_⟩
  · intro start
    cases start with
    | none => exact Nat.zero_le _
    | some cls => exact Nat.succ_le_succ (hbound cls)
  · intro cls cls' hsub
    have hsub := hup cls cls' (m.isSubclass_iff.mp hsub)
    cases hparent : m.parents.get? cls' with
    | none => exact Nat.succ_pos _
    | some parent => exact Nat.succ_lt_succ ((hless cls' parent hparent).trans_le hsub)

end Machine

namespace Cell

/-- The objects in the fields of an object. The items of an array do not count. -/
def referents : Cell → List ObjectRef
  | array _ => []
  | object fields => fields.entries.filterMap fun e => e.2.object?

end Cell

namespace Heap

/-- A field of the one object holds the other. -/
def RefersTo (h : Heap) (r s : ObjectRef) : Prop := ∃ name, h.get? r name = some (.object s)

def Acyclic (h : Heap) : Prop := ∀ r, ¬ Relation.TransGen h.RefersTo r r

variable {h : Heap} {r s : ObjectRef}

theorem RefersTo.exists_cell (hrs : h.RefersTo r s) :
    ∃ cell, h.cell? r.address = some cell ∧ s ∈ cell.referents := by
  obtain ⟨name, hs⟩ := hrs
  rw [get?, fields] at hs
  split at hs
  · rename_i fields hcell
    refine ⟨_, hcell, List.mem_filterMap.mpr ⟨(name, .object s), ?_, rfl⟩⟩
    exact Table.mem_entries_of_get? hs
  · cases hs

theorem mem_cells_of_cell? {address : Nat} {cell : Cell} (hcell : h.cell? address = some cell) :
    cell ∈ h.cells := by
  unfold cell? at hcell
  split at hcell
  · cases hcell
  · exact List.mem_of_getElem? hcell

theorem Acyclic.exists_rank (hh : h.Acyclic) :
    ∃ rank : ObjectRef → Nat, ∀ r s, h.RefersTo r s → rank s < rank r := by
  have htargets : ∀ r s, h.RefersTo r s → s ∈ h.cells.flatMap Cell.referents := by
    intro r s hrs
    obtain ⟨cell, hcell, hs⟩ := hrs.exists_cell
    exact List.mem_flatMap.mpr ⟨cell, mem_cells_of_cell? hcell, hs⟩
  obtain ⟨rank, -, hless⟩ := exists_rank_of_acyclic htargets hh
  exact ⟨rank, hless⟩

def refersToOlder (h : Heap) : Bool :=
  h.cells.zipIdx.all fun (cell, older) => cell.referents.all (·.address ≤ older)

theorem acyclic_of_refersToOlder (holder : h.refersToOlder = true) : h.Acyclic := by
  refine not_transGen_self_of_rank ObjectRef.address ?_
  intro r s hrs
  obtain ⟨cell, hcell, hs⟩ := hrs.exists_cell
  unfold cell? at hcell
  split at hcell
  · cases hcell
  · rename_i hzero
    have hcells := List.all_eq_true.mp holder (cell, r.address - 1)
      (List.mem_zipIdx_iff_getElem?.mpr hcell)
    have hs := of_decide_eq_true (List.all_eq_true.mp hcells s hs)
    change s.address ≤ r.address - 1 at hs
    omega

end Heap

end Memberwise

import Mathlib.Data.List.Induction
import Mathlib.Data.List.Nodup
import Mathlib.Data.List.Perm.Subperm
import Memberwise.Machine.Heap

/-!
# Writes and allocations

A write to an object is seen under its own name and nowhere else, and what is made on a heap is new
there. A table made from a list without repeated keys holds that list.
-/

namespace Memberwise

namespace Table

variable {κ α : Type} [DecidableEq κ]

theorem ofList_concat (entries : List (κ × α)) (e : κ × α) :
    ofList (entries ++ [e]) = (ofList entries).insert e.1 e.2 := by
  rw [ofList, List.foldl_append]
  rfl

theorem get?_ofList_of_notMem {entries : List (κ × α)} {k : κ}
    (hk : k ∉ entries.map Prod.fst) : (ofList entries).get? k = none := by
  induction entries using List.reverseRecOn with
  | nil => rfl
  | append_singleton entries e ih =>
    rw [List.map_append, List.mem_append, not_or] at hk
    have hne : e.1 ≠ k := by simpa [eq_comm] using hk.2
    rw [ofList_concat, get?_insert_of_ne _ _ hne]
    exact ih hk.1

/-- Under each key that is listed one of its values is found. -/
theorem exists_mem_get?_ofList {entries : List (κ × α)} {k : κ}
    (hk : k ∈ entries.map Prod.fst) : ∃ a, (k, a) ∈ entries ∧ (ofList entries).get? k = some a := by
  induction entries using List.reverseRecOn with
  | nil => cases hk
  | append_singleton entries e ih =>
    rw [ofList_concat, get?_insert]
    split
    · rename_i hkey
      exact ⟨e.2, hkey ▸ List.mem_append_right _ List.mem_cons_self, rfl⟩
    · rename_i hne
      rw [List.map_append, List.mem_append] at hk
      rcases hk with hk | hk
      · obtain ⟨a, ha, hget⟩ := ih hk
        exact ⟨a, List.mem_append_left _ ha, hget⟩
      · exact absurd (List.mem_singleton.mp hk).symm hne

theorem get?_ofList_of_mem {entries : List (κ × α)} (hnodup : (entries.map Prod.fst).Nodup)
    {e : κ × α} (he : e ∈ entries) : (ofList entries).get? e.1 = some e.2 := by
  obtain ⟨a, ha, hget⟩ := exists_mem_get?_ofList (List.mem_map_of_mem he)
  rw [hget, ← List.inj_on_of_nodup_map hnodup ha he rfl]

theorem get?_ofList_map_const {keys : List κ} {k : κ} (hk : k ∈ keys) (a : α) :
    (ofList (keys.map fun key => (key, a))).get? k = some a := by
  have hkey : k ∈ (keys.map fun key => (key, a)).map Prod.fst := by
    rw [List.map_map]
    exact List.mem_map_of_mem hk
  obtain ⟨b, hb, hget⟩ := exists_mem_get?_ofList hkey
  obtain ⟨_, -, heq⟩ := List.mem_map.mp hb
  rw [hget, ← (Prod.mk.inj heq).2]

theorem mem_keys_ofList_iff {entries : List (κ × α)} {k : κ} :
    k ∈ (ofList entries).keys ↔ k ∈ entries.map Prod.fst := by
  rw [mem_keys_iff]
  constructor
  · rintro ⟨a, ha⟩
    by_contra hk
    rw [get?_ofList_of_notMem hk] at ha
    cases ha
  · intro hk
    obtain ⟨a, -, ha⟩ := exists_mem_get?_ofList hk
    exact ⟨a, ha⟩

/-- A table has an entry for each that it was made from exactly where no key was repeated. -/
theorem size_ofList_eq_iff {entries : List (κ × α)} :
    (ofList entries).size = entries.length ↔ (entries.map Prod.fst).Nodup := by
  have hkeys : (ofList entries).keys.Nodup := (ofList entries).nodup_keys
  have hsub : (ofList entries).keys.Subperm (entries.map Prod.fst) :=
    hkeys.subperm fun _ hk => mem_keys_ofList_iff.mp hk
  have hsize : (ofList entries).size = (ofList entries).keys.length := (List.length_map _).symm
  have hlength : entries.length = (entries.map Prod.fst).length := (List.length_map _).symm
  rw [hsize, hlength]
  constructor
  · intro heq
    exact (hsub.perm_of_length_le (Nat.le_of_eq heq.symm)).nodup_iff.mp hkeys
  · intro hnodup
    have hsub' : (entries.map Prod.fst).Subperm (ofList entries).keys :=
      hnodup.subperm fun _ hk => mem_keys_ofList_iff.mpr hk
    exact Nat.le_antisymm hsub.length_le hsub'.length_le

end Table

namespace Heap

variable (h : Heap)

theorem cell?_next : h.cell? h.next = none := by
  simp [cell?, next]

theorem cell?_push (cell : Cell) (address : Nat) :
    (h.push cell).cell? address = if address = h.next then some cell else h.cell? address := by
  cases address with
  | zero => simp [cell?, next]
  | succ n =>
    simp only [cell?, push, next, Nat.add_one_ne_zero, if_false, Nat.add_sub_cancel,
      Nat.add_right_cancel_iff]
    split
    · rename_i hn
      rw [hn, List.getElem?_concat_length]
    · rename_i hn
      rw [List.getElem?_append]
      split
      · rfl
      · rename_i hlt
        rw [List.getElem?_eq_none (by simp; omega), List.getElem?_eq_none (by omega)]

theorem fields_newObject (cls : ClassName) (fields : List (String × Value)) :
    (h.newObject cls fields).2.fields (h.newObject cls fields).1 = .ofList fields := by
  simp only [newObject, Heap.fields, cell?_push, if_true]

theorem get?_newObject (cls : ClassName) (fields : List (String × Value)) (name : String) :
    (h.newObject cls fields).2.get? (h.newObject cls fields).1 name =
      (Table.ofList fields).get? name := by
  simp only [newObject, get?, Heap.fields, cell?_push, if_true]

theorem cell?_newObject_of_ne {cls : ClassName} {fields : List (String × Value)} {address : Nat}
    (hne : address ≠ (h.newObject cls fields).1.address) :
    (h.newObject cls fields).2.cell? address = h.cell? address :=
  (h.cell?_push _ address).trans (if_neg hne)

def HasObject (r : ObjectRef) : Prop := ∃ fields, h.cell? r.address = some (.object fields)

theorem hasObject_newObject (cls : ClassName) (fields : List (String × Value)) :
    (h.newObject cls fields).2.HasObject (h.newObject cls fields).1 :=
  ⟨.ofList fields, by simp [newObject, cell?_push]⟩

variable {h} {r : ObjectRef}

theorem HasObject.cell?_set (hr : h.HasObject r) (name : String) (v : Value) :
    (h.set r name v).cell? r.address = some (.object ((h.fields r).insert name v)) := by
  obtain ⟨fields, hcell⟩ := hr
  rw [Heap.set, Heap.fields, hcell]
  unfold cell? at hcell ⊢
  split at hcell
  · cases hcell
  · rename_i hzero
    obtain ⟨hlt, -⟩ := List.getElem?_eq_some_iff.mp hcell
    rw [if_neg hzero]
    simp [hlt]

theorem HasObject.cell?_set_of_ne (hr : h.HasObject r) {address : Nat}
    (hne : address ≠ r.address) (name : String) (v : Value) :
    (h.set r name v).cell? address = h.cell? address := by
  obtain ⟨fields, hcell⟩ := hr
  have hzero : r.address ≠ 0 := by
    intro hzero
    rw [cell?, if_pos hzero] at hcell
    cases hcell
  rw [Heap.set, hcell]
  unfold cell?
  split
  · rfl
  · exact List.getElem?_set_ne (by omega)

theorem HasObject.set (hr : h.HasObject r) (name : String) (v : Value) :
    (h.set r name v).HasObject r :=
  ⟨_, hr.cell?_set name v⟩

theorem HasObject.get?_set (hr : h.HasObject r) (name name' : String) (v : Value) :
    (h.set r name v).get? r name' = if name = name' then some v else h.get? r name' := by
  rw [get?, get?, Heap.fields, hr.cell?_set name v]
  exact Table.get?_insert (h.fields r) name name' v

@[simp] theorem next_set (name : String) (v : Value) : (h.set r name v).next = h.next := by
  unfold Heap.set
  split
  · simp [next]
  · rfl

theorem set_of_not_hasObject (hr : ¬ h.HasObject r) (name : String) (v : Value) :
    h.set r name v = h := by
  unfold Heap.set
  split
  · rename_i fields hcell
    exact absurd ⟨fields, hcell⟩ hr
  · rfl

def setAll (h : Heap) (r : ObjectRef) (entries : List (String × Value)) : Heap :=
  entries.foldl (fun h e => h.set r e.1 e.2) h

theorem HasObject.setAll (hr : h.HasObject r) (entries : List (String × Value)) :
    (h.setAll r entries).HasObject r := by
  induction entries generalizing h with
  | nil => exact hr
  | cons e entries ih => exact ih (hr.set e.1 e.2)

theorem HasObject.get?_setAll_of_notMem (hr : h.HasObject r) {entries : List (String × Value)}
    {name : String} (hname : name ∉ entries.map Prod.fst) :
    (h.setAll r entries).get? r name = h.get? r name := by
  induction entries generalizing h with
  | nil => rfl
  | cons e entries ih =>
    rw [List.map_cons, List.mem_cons, not_or] at hname
    have hrest := ih (hr.set e.1 e.2) hname.2
    rw [hr.get?_set, if_neg (Ne.symm hname.1)] at hrest
    exact hrest

theorem HasObject.get?_setAll_of_mem (hr : h.HasObject r) {entries : List (String × Value)}
    (hnodup : (entries.map Prod.fst).Nodup) {e : String × Value} (he : e ∈ entries) :
    (h.setAll r entries).get? r e.1 = some e.2 := by
  induction entries generalizing h with
  | nil => cases he
  | cons e' entries ih =>
    rw [List.map_cons, List.nodup_cons] at hnodup
    rcases List.mem_cons.mp he with rfl | he
    · have hrest := (hr.set e.1 e.2).get?_setAll_of_notMem hnodup.1
      rw [hr.get?_set, if_pos rfl] at hrest
      exact hrest
    · exact ih (hr.set e'.1 e'.2) hnodup.2 he

theorem HasObject.cell?_setAll_of_ne (hr : h.HasObject r) {address : Nat}
    (hne : address ≠ r.address) (entries : List (String × Value)) :
    (h.setAll r entries).cell? address = h.cell? address := by
  induction entries generalizing h with
  | nil => rfl
  | cons e entries ih => exact (ih (hr.set e.1 e.2)).trans (hr.cell?_set_of_ne hne e.1 e.2)

theorem next_setAll (entries : List (String × Value)) : (h.setAll r entries).next = h.next := by
  induction entries generalizing h with
  | nil => rfl
  | cons e entries ih => exact ih.trans (next_set e.1 e.2)

theorem setAll_of_not_hasObject (hr : ¬ h.HasObject r) (entries : List (String × Value)) :
    h.setAll r entries = h := by
  induction entries with
  | nil => rfl
  | cons e entries ih =>
    rw [setAll, List.foldl_cons, set_of_not_hasObject hr]
    exact ih

/-- The heap has one more object, and otherwise what it had. -/
structure Makes (h h' : Heap) (made : ObjectRef) : Prop where
  next : h'.next = h.next + 1
  fresh : h.cell? made.address = none
  object : h'.HasObject made
  cells : ∀ address, address ≠ made.address → h'.cell? address = h.cell? address

theorem Makes.address_ne {h h' : Heap} {made r : ObjectRef} (hmade : h.Makes h' made)
    (hr : h.HasObject r) : r.address ≠ made.address := by
  obtain ⟨fields, hcell⟩ := hr
  intro hsame
  rw [hsame, hmade.fresh] at hcell
  cases hcell

theorem Makes.fields_eq {h h' : Heap} {made r : ObjectRef} (hmade : h.Makes h' made)
    (hr : h.HasObject r) : h'.fields r = h.fields r := by
  rw [fields, fields, hmade.cells r.address (hmade.address_ne hr)]

theorem Makes.hasObject {h h' : Heap} {made r : ObjectRef} (hmade : h.Makes h' made)
    (hr : h.HasObject r) : h'.HasObject r := by
  rw [HasObject, hmade.cells r.address (hmade.address_ne hr)]
  exact hr

theorem makes_newObject (h : Heap) (cls : ClassName) (fields : List (String × Value)) :
    h.Makes (h.newObject cls fields).2 (h.newObject cls fields).1 where
  next := by simp [newObject, push, next]
  fresh := h.cell?_next
  object := h.hasObject_newObject cls fields
  cells _ hne := h.cell?_newObject_of_ne hne

end Heap

end Memberwise

/-!
# Tables

Finite maps with one entry per key. A table is read through `get?`; the order of its entries is
never observed. `get?_insert` and `get?_erase` say what a change does to that view, and `size`
counts keys.
-/

namespace Memberwise

structure Table (κ : Type) (α : Type) where
  entries : List (κ × α)
  nodup_keys : (entries.map Prod.fst).Nodup

namespace Table

variable {κ α : Type}

def empty : Table κ α := ⟨[], List.nodup_nil⟩

instance : EmptyCollection (Table κ α) := ⟨empty⟩

instance : Inhabited (Table κ α) := ⟨empty⟩

def size (t : Table κ α) : Nat := t.entries.length

def keys (t : Table κ α) : List κ := t.entries.map Prod.fst

variable [DecidableEq κ]

def find? (k : κ) : List (κ × α) → Option α
  | [] => none
  | (k', a) :: rest => if k' = k then some a else find? k rest

def without (k : κ) (entries : List (κ × α)) : List (κ × α) :=
  entries.filter (fun e => e.1 ≠ k)

theorem nodup_without {k : κ} {entries : List (κ × α)} (h : (entries.map Prod.fst).Nodup) :
    ((without k entries).map Prod.fst).Nodup :=
  (List.filter_sublist.map Prod.fst).nodup h

theorem notMem_without (k : κ) (entries : List (κ × α)) :
    k ∉ (without k entries).map Prod.fst := by
  intro h
  obtain ⟨e, he, rfl⟩ := List.mem_map.mp h
  simp [without] at he

def get? (t : Table κ α) (k : κ) : Option α := find? k t.entries

def contains (t : Table κ α) (k : κ) : Bool := (t.get? k).isSome

def erase (t : Table κ α) (k : κ) : Table κ α :=
  ⟨without k t.entries, nodup_without t.nodup_keys⟩

def insert (t : Table κ α) (k : κ) (a : α) : Table κ α :=
  ⟨(k, a) :: without k t.entries,
    List.nodup_cons.mpr ⟨notMem_without k t.entries, nodup_without t.nodup_keys⟩⟩

/-- Of several values listed under one key the last counts. -/
def ofList (entries : List (κ × α)) : Table κ α :=
  entries.foldl (fun t e => t.insert e.1 e.2) empty

theorem find?_without (k k' : κ) (entries : List (κ × α)) :
    find? k' (without k entries) = if k = k' then none else find? k' entries := by
  induction entries with
  | nil => simp [without, find?]
  | cons e rest ih =>
    obtain ⟨j, a⟩ := e
    by_cases hj : j = k
    · have : without k ((j, a) :: rest) = without k rest := by simp [without, hj]
      rw [this, ih, find?]
      by_cases hk : k = k'
      · simp [hk]
      · simp [hk, hj]
    · have : without k ((j, a) :: rest) = (j, a) :: without k rest := by simp [without, hj]
      rw [this, find?, find?, ih]
      by_cases hjk : j = k'
      · have : k ≠ k' := fun h => hj (hjk.trans h.symm)
        simp [hjk, this]
      · simp [hjk]

theorem get?_erase (t : Table κ α) (k k' : κ) :
    (t.erase k).get? k' = if k = k' then none else t.get? k' :=
  find?_without k k' t.entries

theorem get?_insert (t : Table κ α) (k k' : κ) (a : α) :
    (t.insert k a).get? k' = if k = k' then some a else t.get? k' := by
  change find? k' ((k, a) :: without k t.entries) = _
  rw [find?, find?_without]
  by_cases h : k = k' <;> simp [h, get?]

theorem get?_insert_self (t : Table κ α) (k : κ) (a : α) : (t.insert k a).get? k = some a := by
  simp [get?_insert]

theorem get?_insert_of_ne (t : Table κ α) {k k' : κ} (a : α) (h : k ≠ k') :
    (t.insert k a).get? k' = t.get? k' := by
  simp [get?_insert, h]

theorem find?_eq_none_iff {k : κ} {entries : List (κ × α)} :
    find? k entries = none ↔ k ∉ entries.map Prod.fst := by
  induction entries with
  | nil => simp [find?]
  | cons e rest ih =>
    rw [find?]
    by_cases hk : e.1 = k
    · simp [hk]
    · simp [hk, ih, Ne.symm hk]

theorem mem_entries_of_find? {k : κ} {a : α} {entries : List (κ × α)}
    (h : find? k entries = some a) : (k, a) ∈ entries := by
  induction entries with
  | nil => cases h
  | cons e rest ih =>
    rw [find?] at h
    split at h
    · rename_i hk
      cases h
      cases hk
      exact List.mem_cons_self
    · exact List.mem_cons_of_mem _ (ih h)

theorem mem_entries_of_get? {t : Table κ α} {k : κ} {a : α} (h : t.get? k = some a) :
    (k, a) ∈ t.entries :=
  mem_entries_of_find? h

theorem mem_keys_iff {t : Table κ α} {k : κ} : k ∈ t.keys ↔ ∃ a, t.get? k = some a := by
  rw [← Option.ne_none_iff_exists', get?, ne_eq, find?_eq_none_iff, Classical.not_not]
  rfl

end Table

end Memberwise

import Mathlib.Data.Set.Card
import Memberwise.Machine.Value
import Memberwise.Proofs.Machine.Polynomial

/-!
# Hashes of texts and references

The hash of a text is a polynomial over its UTF-16 code units, however long the text is and
wherever the arithmetic wraps, so that a text appended to another one shifts the hash of the first.
The hash of a reference loses one bit of its spread id and nothing else: spreading is a bijection,
since an odd factor has an inverse modulo a power of two.
-/

namespace Memberwise

namespace Text

/-- The code units spell the characters: a unit for each character of the basic plane, a high and a
low surrogate for each one beyond it. -/
inductive Spells : List Nat → List Char → Prop
  | nil : Spells [] []
  | basic {c : Char} {us : List Nat} {cs : List Char} (hc : c.toNat < 0x10000) :
    Spells us cs → Spells (c.toNat :: us) (c :: cs)
  | pair {c : Char} {high low : Nat} {us : List Nat} {cs : List Char} (hhigh : high < 0x400)
    (hlow : low < 0x400) (hc : c.toNat = 0x10000 + 0x400 * high + low) :
    Spells us cs → Spells ((0xD800 + high) :: (0xDC00 + low) :: us) (c :: cs)

theorem charUnits_of_lt {c : Char} (hc : c.toNat < 0x10000) : charUnits c = [c.toNat] := if_pos hc

theorem charUnits_of_pair {c : Char} {high low : Nat} (hlow : low < 0x400)
    (hc : c.toNat = 0x10000 + 0x400 * high + low) :
    charUnits c = [0xD800 + high, 0xDC00 + low] := by
  have hhigh : (c.toNat - 0x10000) / 0x400 = high := by omega
  have hrest : (c.toNat - 0x10000) % 0x400 = low := by omega
  rw [charUnits, if_neg (by omega), hhigh, hrest]

theorem spells_iff {us : List Nat} {cs : List Char} :
    Spells us cs ↔ us = cs.flatMap charUnits := by
  constructor
  · intro h
    induction h with
    | nil => rfl
    | basic hc _ ih => rw [List.flatMap_cons, charUnits_of_lt hc, ← ih, List.singleton_append]
    | pair _ hlow hc _ ih => rw [List.flatMap_cons, charUnits_of_pair hlow hc, ← ih]; rfl
  · rintro rfl
    induction cs with
    | nil => exact .nil
    | cons c cs ih =>
      rw [List.flatMap_cons]
      by_cases hc : c.toNat < 0x10000
      · rw [charUnits_of_lt hc]
        exact .basic hc ih
      · have hlt := toNat_lt c
        rw [charUnits, if_neg hc]
        exact .pair (by omega) (by omega) (by omega) ih

example : Spells [0x61, 0xD834, 0xDD1E] ['a', '𝄞'] := spells_iff.mpr (by decide)

end Text

namespace Hash

theorem foldl_step (lead : Int32) (us : List Nat) :
    us.foldl step lead = Int32.ofInt (polynomial lead.toInt (us.map Int.ofNat)) := by
  rw [← foldl_ofInt, List.foldl_map, Int32.ofInt_toInt]
  rfl

theorem polynomial_eq_add (lead : Int) (xs : List Int) :
    polynomial lead xs = lead * 31 ^ xs.length + polynomial 0 xs := by
  rw [polynomial, polynomial, zero_mul, zero_add]

theorem polynomial_map_ofNat (us : List Nat) :
    polynomial 0 (us.map Int.ofNat) =
      ∑ i : Fin us.length, (us[i] : Int) * 31 ^ (us.length - 1 - i) := by
  rw [polynomial, zero_mul, zero_add, ← Fin.sum_congr' _ (List.length_map Int.ofNat).symm]
  refine Finset.sum_congr rfl fun i _ => ?_
  simp

theorem toInt_ofText (s : String) :
    (ofText s).toInt = (polynomial 0 ((Text.units s).map Int.ofNat)).bmod (2 ^ 32) := by
  rw [ofText, foldl_step, Int32.toInt_ofInt]
  rfl

/-- The hash of a text is the polynomial over its code units at 31, wrapped once, and a text that is
appended shifts the hash by as many powers as it has units. -/
theorem ofText_polynomial (s t : String) :
    (∀ us, Text.Spells us s.toList ↔ us = Text.units s) ∧
    (ofText s).toInt =
      (∑ i : Fin (Text.units s).length,
        ((Text.units s)[i] : Int) * 31 ^ ((Text.units s).length - 1 - i)).bmod (2 ^ 32) ∧
    (ofText (s ++ t)).toInt =
      ((ofText s).toInt * 31 ^ (Text.units t).length + (ofText t).toInt).bmod (2 ^ 32) := by
  refine ⟨fun us => Text.spells_iff, ?_, ?_⟩
  · rw [toInt_ofText, polynomial_map_ofNat]
  · have happend : ofText (s ++ t) = (Text.units t).foldl step (ofText s) := by
      rw [ofText, Text.units_append, List.foldl_append]
      rfl
    rw [happend, foldl_step, Int32.toInt_ofInt, polynomial_eq_add, List.length_map, toInt_ofText t,
      Int.add_bmod_bmod]
    rfl

end Hash

inductive Reference
  | array (r : ArrayRef)
  | object (r : ObjectRef)

namespace Reference

def id : Reference → UInt32
  | array r => UInt32.ofNat r.address
  | object r => UInt32.ofNat r.address

def identityHash : Reference → Int32
  | array r => r.identityHash
  | object r => r.identityHash

theorem identityHash_eq (r : Reference) : r.identityHash = Hash.ofId r.id := by
  cases r <;> rfl

end Reference

namespace Hash

def spread (id : UInt32) : UInt32 := id * 0x9E3779B9

theorem spread_bijective : Function.Bijective spread := by
  have hunit : (0x9E3779B9 : UInt32) * 0x144CBC89 = 1 := by decide
  refine Function.bijective_iff_has_inverse.mpr ⟨(· * 0x144CBC89), fun id => ?_, fun x => ?_⟩
  · change id * 0x9E3779B9 * 0x144CBC89 = id
    rw [UInt32.mul_assoc, hunit, UInt32.mul_one]
  · change x * 0x144CBC89 * 0x9E3779B9 = x
    rw [UInt32.mul_assoc, UInt32.mul_comm 0x144CBC89, hunit, UInt32.mul_one]

theorem toNat_half (x : UInt32) : (x >>> 1).toNat = x.toNat / 2 := by
  rw [UInt32.toNat_shiftRight, Nat.shiftRight_eq_div_pow]
  rfl

/-- Half of a word is no negative number. -/
theorem toInt_half (x : UInt32) : (x >>> 1).toInt32.toInt = (x.toNat / 2 : Nat) := by
  have hlt := x.toNat_lt
  rw [← toNat_half]
  apply BitVec.toInt_eq_toNat_of_lt
  change 2 * (x >>> 1).toNat < 2 ^ 32
  rw [toNat_half]
  omega

theorem toInt_ofId (id : UInt32) : (ofId id).toInt = ((spread id).toNat / 2 : Nat) :=
  toInt_half (spread id)

theorem toInt_ofId_nonneg (id : UInt32) : 0 ≤ (ofId id).toInt := by
  rw [toInt_ofId]
  exact Int.natCast_nonneg _

/-- One id spreads to twice the hash, and one to the odd number after that. -/
theorem ncard_ofId {n : Int} (hn : 0 ≤ n) (hlt : n < 2 ^ 31) :
    {id | (ofId id).toInt = n}.ncard = 2 := by
  obtain ⟨n, rfl⟩ := Int.eq_ofNat_of_zero_le hn
  have hspread (k : Nat) (hk : k < UInt32.size) : ∃ id, (spread id).toNat = k := by
    obtain ⟨id, hid⟩ := spread_bijective.surjective (UInt32.ofNat k)
    exact ⟨id, by rw [hid, UInt32.toNat_ofNat_of_lt' hk]⟩
  obtain ⟨i, hi⟩ := hspread (2 * n) (by rw [UInt32.size]; omega)
  obtain ⟨j, hj⟩ := hspread (2 * n + 1) (by rw [UInt32.size]; omega)
  have hid (id k : UInt32) : id = k ↔ (spread id).toNat = (spread k).toNat := by
    rw [UInt32.toNat_inj, spread_bijective.injective.eq_iff]
  refine Set.ncard_eq_two.mpr ⟨i, j, ?_, ?_⟩
  · rw [ne_eq, hid]
    omega
  · ext id
    rw [Set.mem_ofPred_eq, toInt_ofId, Set.mem_insert_iff, Set.mem_singleton_iff, hid, hid id j]
    omega

theorem ofId_eq_iff {i j : UInt32} (hne : i ≠ j) :
    ofId i = ofId j ↔ spread i ^^^ spread j = 1 := by
  have hnonzero : (spread i ^^^ spread j).toNat ≠ 0 := by
    intro h
    have hxor : spread i ^^^ spread j = 0 := UInt32.toNat_inj.mp h
    exact hne (spread_bijective.injective (UInt32.xor_eq_zero_iff.mp hxor))
  calc
    ofId i = ofId j ↔ spread i >>> 1 = spread j >>> 1 := by
      rw [← Int32.toInt_inj, toInt_ofId, toInt_ofId, ← toNat_half, ← toNat_half, Int.ofNat_inj,
        UInt32.toNat_inj]
    _ ↔ (spread i ^^^ spread j) >>> 1 = 0 := by
      rw [← UInt32.xor_eq_zero_iff, UInt32.shiftRight_xor]
    _ ↔ (spread i ^^^ spread j).toNat / 2 = 0 := by
      rw [← UInt32.toNat_inj, toNat_half]
      rfl
    _ ↔ spread i ^^^ spread j = 1 := by
      rw [← UInt32.toNat_inj]
      change _ ↔ _ = 1
      omega

theorem toInt_ofId_lt (id : UInt32) : (ofId id).toInt < 2 ^ 31 := by
  have hlt := (spread id).toNat_lt
  rw [toInt_ofId]
  omega

theorem exists_ids (h : Int32) : ∃ i j, ∀ id, ofId id = h → id = i ∨ id = j := by
  by_cases hh : ∃ id, ofId id = h
  · obtain ⟨k, rfl⟩ := hh
    obtain ⟨i, j, -, hids⟩ :=
      Set.ncard_eq_two.mp (ncard_ofId (toInt_ofId_nonneg k) (toInt_ofId_lt k))
    refine ⟨i, j, fun id hid => ?_⟩
    have hmem : id ∈ {id | (ofId id).toInt = (ofId k).toInt} := congrArg Int32.toInt hid
    rwa [hids] at hmem
  · exact ⟨0, 0, fun id hid => absurd ⟨id, hid⟩ hh⟩

theorem countP_identityHash_le {rs : List Reference} (hrs : (rs.map Reference.id).Nodup)
    (h : Int32) : rs.countP (·.identityHash = h) ≤ 2 := by
  obtain ⟨i, j, hids⟩ := exists_ids h
  have hnodup : ((rs.filter (·.identityHash = h)).map Reference.id).Nodup :=
    (List.filter_sublist.map Reference.id).nodup hrs
  have hsub : (rs.filter (·.identityHash = h)).map Reference.id ⊆ [i, j] := by
    intro id hid
    obtain ⟨r, hr, rfl⟩ := List.mem_map.mp hid
    have hhash : r.identityHash = h := of_decide_eq_true (List.mem_filter.mp hr).2
    rw [List.mem_cons, List.mem_singleton]
    exact hids r.id (r.identityHash_eq.symm.trans hhash)
  have hlength := (hnodup.subperm hsub).length_le
  rwa [List.length_map, ← List.countP_eq_length_filter] at hlength

/-- No hash of a reference is negative, and every other number of 32 bits is the hash of two ids. So
no three references with different ids have one hash, and two of them do where their spread ids
differ in the lowest bit alone. -/
theorem ofId_two_to_one :
    (∀ id, 0 ≤ (ofId id).toInt) ∧
    (∀ n : Int, 0 ≤ n → n < 2 ^ 31 → {id | (ofId id).toInt = n}.ncard = 2) ∧
    (∀ (rs : List Reference) (h : Int32), (rs.map Reference.id).Nodup →
      rs.countP (·.identityHash = h) ≤ 2) ∧
    ∀ r s : Reference, r.id ≠ s.id →
      (r.identityHash = s.identityHash ↔
        r.id * 0x9E3779B9 ^^^ s.id * 0x9E3779B9 = 1) := by
  refine ⟨toInt_ofId_nonneg, fun n => ncard_ofId, fun rs h hrs => countP_identityHash_le hrs h, ?_⟩
  intro r s hne
  rw [r.identityHash_eq, s.identityHash_eq]
  exact ofId_eq_iff hne

end Hash

end Memberwise

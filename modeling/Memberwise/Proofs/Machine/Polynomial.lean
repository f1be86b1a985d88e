import Mathlib.Algebra.BigOperators.Fin
import Mathlib.Tactic.Ring
import Memberwise.Machine.Hash

/-!
# Hashes as polynomials

Carrying a hash through a list, each time multiplying by 31 and adding the next number, gives the
value at 31 of the polynomial with these coefficients. Wrapping at each step or once at the end
makes no difference.
-/

namespace Memberwise.Hash

/-- The polynomial with leading coefficient `lead`, followed by `xs`, at 31. -/
def polynomial (lead : Int) (xs : List Int) : Int :=
  lead * 31 ^ xs.length + ∑ i : Fin xs.length, xs[i] * 31 ^ (xs.length - 1 - i)

@[simp] theorem polynomial_nil (lead : Int) : polynomial lead [] = lead := by
  simp [polynomial]

theorem polynomial_cons (lead x : Int) (xs : List Int) :
    polynomial lead (x :: xs) = polynomial (lead * 31 + x) xs := by
  have hlater (i : Fin xs.length) :
      (x :: xs)[(i.succ : Nat)] * (31 : Int) ^ (xs.length + 1 - 1 - i.succ) =
        xs[i] * 31 ^ (xs.length - 1 - i) := by
    have hexp : xs.length + 1 - 1 - (i + 1) = xs.length - 1 - (i : Nat) := by omega
    simp only [Fin.getElem_fin, Fin.val_succ, List.getElem_cons_succ, hexp]
  change lead * 31 ^ (xs.length + 1) +
    ∑ i : Fin (xs.length + 1), (x :: xs)[(i : Nat)] * (31 : Int) ^ (xs.length + 1 - 1 - i) = _
  rw [Fin.sum_univ_succ, Finset.sum_congr rfl fun i _ => hlater i, polynomial]
  simp only [Fin.val_zero, List.getElem_cons_zero, Nat.add_sub_cancel, Nat.sub_zero]
  ring

theorem foldl_ofInt (lead : Int) (xs : List Int) :
    xs.foldl (fun hash x => hash * 31 + Int32.ofInt x) (Int32.ofInt lead) =
      Int32.ofInt (polynomial lead xs) := by
  induction xs generalizing lead with
  | nil => simp
  | cons x xs ih =>
    have hstep : Int32.ofInt lead * 31 + Int32.ofInt x = Int32.ofInt (lead * 31 + x) := by
      rw [Int32.ofInt_add, Int32.ofInt_mul]
      rfl
    rw [List.foldl_cons, hstep, ih, polynomial_cons]

theorem foldl_toInt (lead : Int) (ys : List Int32) :
    ys.foldl (fun hash y => hash * 31 + y) (Int32.ofInt lead) =
      Int32.ofInt (polynomial lead (ys.map Int32.toInt)) := by
  rw [← foldl_ofInt, List.foldl_map]
  simp only [Int32.ofInt_toInt]

end Memberwise.Hash

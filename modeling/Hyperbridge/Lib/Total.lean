import Hyperbridge.Lib.Bytes
import Mathlib.Algebra.BigOperators.Group.Finset.Piecewise
import Mathlib.Algebra.Order.BigOperators.Group.Finset
import Mathlib.Data.Fintype.Vector

/-!
# The total of what a map records

A contract or a pallet keeps entries under hashes, and each entry stands for an amount. There are finitely many hashes,
so the amounts have a sum. One write changes it by the difference of the two amounts at its place.
-/

namespace Hyperbridge.Lib

open Finset

instance finiteUInt8 : Finite UInt8 := Finite.of_injective UInt8.toFin fun _ _ h => UInt8.toFin_inj.mp h

noncomputable instance fintypeUInt8 : Fintype UInt8 := Fintype.ofFinite UInt8

noncomputable instance (n : Nat) : Fintype (BytesN n) := inferInstanceAs (Fintype (List.Vector UInt8 n))

variable {ι α M : Type} [Fintype ι]

def total [AddCommMonoid M] (amount : ι → α → M) (entries : ι → α) : M := ∑ i, amount i (entries i)

/-- A write exchanges one amount for another. -/
theorem total_update [AddCommMonoid M] [DecidableEq ι] (amount : ι → α → M) (entries : ι → α) (i : ι) (x : α) :
    total amount (Function.update entries i x) + amount i (entries i) = total amount entries + amount i x := by
  have hplace : (fun j => amount j (Function.update entries i x j)) =
      Function.update (fun j => amount j (entries j)) i (amount i x) := by
    funext j
    by_cases hj : j = i
    · subst hj
      rw [Function.update_self, Function.update_self]
    · rw [Function.update_of_ne hj, Function.update_of_ne hj]
  have hafter : total amount (Function.update entries i x) = amount i x + ∑ j ∈ univ \ {i}, amount j (entries j) := by
    rw [total, hplace, sum_update_of_mem (mem_univ i)]
  have hbefore : total amount entries = amount i (entries i) + ∑ j ∈ univ \ {i}, amount j (entries j) := by
    rw [total, ← sum_sdiff (subset_univ {i}), sum_singleton, add_comm]
  rw [hafter, hbefore, add_right_comm, add_comm (amount i x), add_right_comm]

theorem le_total (amount : ι → α → Nat) (entries : ι → α) (i : ι) : amount i (entries i) ≤ total amount entries :=
  single_le_sum (f := fun j => amount j (entries j)) (fun _ _ => Nat.zero_le _) (mem_univ i)

theorem total_eq_zero [AddCommMonoid M] {amount : ι → α → M} {entries : ι → α} (h : ∀ i, amount i (entries i) = 0) :
    total amount entries = 0 :=
  sum_eq_zero fun i _ => h i

omit [Fintype ι] in
theorem sum_map_filterMap [AddMonoid M] (f : ι → Option α) (amount : α → M) (places : List ι) :
    ((places.filterMap f).map amount).sum = (places.map fun i => (f i).elim 0 amount).sum := by
  induction places with
  | nil => rfl
  | cons i places ih =>
    rw [List.map_cons, List.sum_cons, ← ih, List.filterMap_cons]
    cases f i with
    | none => exact (zero_add _).symm
    | some a => rfl

end Hyperbridge.Lib

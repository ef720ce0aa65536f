import Mathlib.Algebra.BigOperators.Group.Finset.Piecewise
import Mathlib.Algebra.BigOperators.Group.Finset.Basic
import Mathlib.Data.Fintype.BigOperators
import Mathlib.Data.List.FinRange

/-!
# Aggregates over a set of positions

A family over `Fin n` with a bit for each position. Taking the members at the unset positions away from the aggregate of
all of them, one after the other, leaves the sum over the set positions.
-/

namespace Hyperbridge.Lib

variable {n : Nat} {α G : Type} [AddCommGroup G]

theorem foldl_sub (l : List G) (a : G) : l.foldl (· - ·) a = a - l.sum := by
  induction l generalizing a with
  | nil => simp
  | cons x l ih =>
    rw [List.foldl_cons, ih, List.sum_cons, sub_sub]

theorem sum_map_filter_finRange (p : Fin n → Bool) (f : Fin n → G) :
    (((List.finRange n).filter p).map f).sum = ∑ i with p i = true, f i := by
  rw [← List.sum_toFinset f ((List.nodup_finRange n).filter p), List.toFinset_filter, List.toFinset_finRange]

variable (bits : Fin n → Bool)

theorem foldl_sub_unset (f : Fin n → G) :
    (((List.finRange n).filter fun i => !bits i).map f).foldl (· - ·) (∑ i, f i) = ∑ i with bits i = true, f i := by
  have hsplit := Finset.sum_filter_add_sum_filter_not Finset.univ (fun i => bits i = true) f
  rw [foldl_sub, sum_map_filter_finRange, ← hsplit]
  simp

theorem count_true_ofFn : (List.ofFn bits).count true = (Finset.univ.filter fun i => bits i = true).card := by
  rw [List.ofFn_eq_map, List.count_eq_countP, List.countP_map, List.countP_eq_length_filter,
    ← List.toFinset_card_of_nodup ((List.nodup_finRange n).filter _), List.toFinset_filter, List.toFinset_finRange]
  simp

theorem filterMap_unset (f : Fin n → α) :
    (((List.ofFn bits).zip (List.ofFn f)).filterMap fun bx => if !bx.1 then some bx.2 else none) =
      ((List.finRange n).filter fun i => !bits i).map f := by
  rw [List.ofFn_eq_map, List.ofFn_eq_map, List.zip_map', List.filterMap_map, ← List.filterMap_eq_filter,
    List.map_filterMap]
  congr 1
  funext i
  cases h : bits i <;> simp [Option.guard, h]

end Hyperbridge.Lib

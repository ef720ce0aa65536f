import Hyperbridge.Lib.Mountains
import Mathlib.Data.List.TakeWhile
import Mathlib.Order.Interval.Finset.Nat

/-!
# k-indices

`mmr_position_to_k_index` of the primitives of the mountain range: for each leaf of a proof, its place among the leaves
of its mountain, found by a descent from the peak.
-/

namespace Hyperbridge.PalletMmr

open Lib Mountains

/-- `take_while_vec`. -/
def takeWhileVec (v : List Nat) (p : Nat → Bool) : List Nat × List Nat := (v.takeWhile p, v.dropWhile p)

/-- Towards the leaf `pos`: `index` doubles, and is odd after a step to the right. -/
def descend (pos : Nat) : Nat → Nat → Nat → Nat
  | 0, _, index => index
  | height + 1, parentPos, index =>
    let leftChild := parentPos - parentOffset height
    let rightChild := leftChild + siblingOffset height
    if pos ≤ leftChild then descend pos height leftChild (index * 2)
    else descend pos height rightChild (index * 2 + 1)

/-- The loop over the peaks: the leaves up to a peak are those of its mountain. -/
def kIndices : List Nat → List Nat → List (Nat × Nat)
  | [], _ => []
  | peak :: peaks, leaves =>
    let (taken, rest) := takeWhileVec leaves fun pos => pos ≤ peak
    taken.map (fun pos => (pos, descend pos (posHeightInTree peak) peak 0)) ++ kIndices peaks rest

/-- `mmr_position_to_k_index`. -/
def mmrPositionToKIndex (leaves : List Nat) (mmrSize : Nat) : List (Nat × Nat) := kIndices (getPeaks mmrSize) leaves

/-- The position belongs to the mountain. -/
def Inside (m : Nat × Nat) (pos : Nat) : Prop := size m.1 ≤ pos ∧ pos ≤ top m.1 m.2

instance (m : Nat × Nat) (pos : Nat) : Decidable (Inside m pos) := inferInstanceAs (Decidable (_ ∧ _))

/-- The leaves of the same mountain left of a position. -/
def leavesLeft (n pos : Nat) : Nat :=
  {i ∈ Finset.range n | size i < pos ∧ ∃ m ∈ mountains n, Inside m (size i) ∧ Inside m pos}.card

theorem inside_size_iff {m : Nat × Nat} (hm : 2 ^ (m.2 + 1) ∣ m.1) {i : Nat} :
    Inside m (size i) ↔ m.1 ≤ i ∧ i < m.1 + 2 ^ m.2 := by
  rw [Inside, size_le_top_iff hm, size_strictMono.le_iff_le]

theorem leavesLeft_eq {n : Nat} {m : Nat × Nat} (hm : m ∈ mountains n) {j : Nat} (hj : j < 2 ^ m.2) :
    leavesLeft n (size (m.1 + j)) = j := by
  obtain ⟨hn, hdvd⟩ := mem_mountains hm
  have hset : {i ∈ Finset.range n | size i < size (m.1 + j) ∧
      ∃ m' ∈ mountains n, Inside m' (size i) ∧ Inside m' (size (m.1 + j))} = Finset.Ico m.1 (m.1 + j) := by
    ext i
    rw [Finset.mem_filter, Finset.mem_range, Finset.mem_Ico, size_strictMono.lt_iff_lt]
    constructor
    · rintro ⟨-, hlt, m', hm', hi, hpos⟩
      rw [inside_size_iff (mem_mountains hm').2] at hi hpos
      obtain rfl : m' = m := by
        by_contra hne
        have hapart := mountains_apart hm' hm hne
        unfold Apart at hapart
        omega
      exact ⟨hi.1, hlt⟩
    · rintro ⟨hle, hlt⟩
      exact ⟨by omega, hlt, m, hm, (inside_size_iff hdvd).mpr ⟨hle, by omega⟩,
        (inside_size_iff hdvd).mpr ⟨by omega, by omega⟩⟩
  rw [leavesLeft, hset, Nat.card_Ico, Nat.add_sub_cancel_left]

/-- The descent counts the leaves to the left. -/
theorem descend_size {h k j : Nat} (hk : 2 ^ h ∣ k) (hj : j < 2 ^ h) (index : Nat) :
    descend (size (k + j)) h (top k h) index = index * 2 ^ h + j := by
  induction h generalizing k j index with
  | zero =>
    obtain rfl : j = 0 := by simpa using hj
    simp [descend]
  | succ h ih =>
    have hk' : 2 ^ h ∣ k := (pow_dvd_pow 2 h.le_succ).trans hk
    have hleft : top k (h + 1) - parentOffset h = top k h := by
      rw [top_succ, parentOffset, Nat.add_sub_cancel]
    have hright : top k h + siblingOffset h = top (k + 2 ^ h) h := (top_right hk).symm
    have hside : size (k + j) ≤ top k h ↔ j < 2 ^ h := by
      rw [size_le_top_iff hk, Nat.add_lt_add_iff_left]
    rw [descend, hleft, hright]
    by_cases hlt : j < 2 ^ h
    · rw [if_pos (hside.mpr hlt), ih hk' hlt]
      ring
    · obtain ⟨j', rfl⟩ := Nat.exists_eq_add_of_le (not_lt.mp hlt)
      rw [if_neg (mt hside.mp hlt), ← add_assoc, ih (dvd_add hk' dvd_rfl) (by omega)]
      ring

theorem lt_of_mem_dropWhile {leaves : List Nat} (hsorted : leaves.Pairwise (· < ·)) {peak pos : Nat}
    (hpos : pos ∈ leaves.dropWhile fun pos => pos ≤ peak) : peak < pos := by
  induction leaves with
  | nil => cases hpos
  | cons first rest ih =>
    rw [List.pairwise_cons] at hsorted
    by_cases hfirst : first ≤ peak
    · rw [List.dropWhile_cons_of_pos (by simpa using hfirst)] at hpos
      exact ih hsorted.2 hpos
    · rw [List.dropWhile_cons_of_neg (by simpa using hfirst)] at hpos
      obtain rfl | hpos := List.mem_cons.mp hpos
      · omega
      · have hlt := hsorted.1 pos hpos
        omega

theorem kIndices_mountainsBelow {h k i : Nat} (hk : 2 ^ h ∣ k) (hi : i < 2 ^ h) {g : Nat → Nat}
    (hg : ∀ m ∈ mountainsBelow h k i, ∀ j < 2 ^ m.2, g (size (m.1 + j)) = j) {leaves : List Nat}
    (hsorted : leaves.Pairwise (· < ·)) (hleaves : ∀ pos ∈ leaves, ∃ j < i, pos = size (k + j)) :
    kIndices ((mountainsBelow h k i).map fun m => top m.1 m.2) leaves = leaves.map fun pos => (pos, g pos) := by
  induction h generalizing k i leaves with
  | zero =>
    obtain rfl : leaves = [] := List.eq_nil_iff_forall_not_mem.mpr fun pos hpos => by
      obtain ⟨j, hj, -⟩ := hleaves pos hpos
      omega
    rfl
  | succ h ih =>
    have hk' : 2 ^ h ∣ k := (pow_dvd_pow 2 h.le_succ).trans hk
    rw [mountainsBelow] at hg ⊢
    by_cases hhigh : 2 ^ h ≤ i
    · rw [if_pos hhigh] at hg ⊢
      have hside (j : Nat) : size (k + j) ≤ top k h ↔ j < 2 ^ h := by
        rw [size_le_top_iff hk, Nat.add_lt_add_iff_left]
      have htaken : (leaves.takeWhile fun pos => pos ≤ top k h).map
            (fun pos => (pos, descend pos (posHeightInTree (top k h)) (top k h) 0)) =
          (leaves.takeWhile fun pos => pos ≤ top k h).map fun pos => (pos, g pos) := by
        refine List.map_congr_left fun pos hpos => ?_
        obtain ⟨j, -, rfl⟩ := hleaves pos (List.takeWhile_sublist _ |>.subset hpos)
        have hj : j < 2 ^ h := (hside j).mp (by simpa using List.mem_takeWhile_imp hpos)
        rw [posHeightInTree_top hk', descend_size hk' hj, hg _ (List.mem_cons_self ..) j hj, Nat.zero_mul, Nat.zero_add]
      have hrest : ∀ pos ∈ leaves.dropWhile (fun pos => pos ≤ top k h), ∃ j < i - 2 ^ h,
        pos = size (k + 2 ^ h + j) := by
        intro pos hpos
        obtain ⟨j, hj, rfl⟩ := hleaves pos (List.dropWhile_sublist _ |>.subset hpos)
        have hge : ¬ j < 2 ^ h := mt (hside j).mpr (lt_of_mem_dropWhile hsorted hpos).not_ge
        exact ⟨j - 2 ^ h, by omega, by rw [show k + 2 ^ h + (j - 2 ^ h) = k + j by omega]⟩
      rw [List.map_cons, kIndices, takeWhileVec]
      dsimp only
      rw [htaken, ih (dvd_add hk' dvd_rfl) (by omega) (fun m hm => hg m (List.mem_cons_of_mem _ hm))
        (hsorted.sublist (List.dropWhile_sublist _)) hrest, ← List.map_append, List.takeWhile_append_dropWhile]
    · rw [if_neg hhigh] at hg ⊢
      exact ih hk' (by omega) hg hsorted hleaves

/-- Each position comes back once, in order, with the number of leaves left of it in its mountain. -/
theorem mmrPositionToKIndex_eq (n : Nat) (leaves : List Nat) (hsorted : leaves.Pairwise (· < ·))
    (hleaves : ∀ pos ∈ leaves, ∃ i < n, pos = size i) :
    mmrPositionToKIndex leaves (size n) = leaves.map fun pos => (pos, leavesLeft n pos) := by
  rw [mmrPositionToKIndex, getPeaks_size]
  refine kIndices_mountainsBelow (dvd_zero _) n.lt_two_pow_self (fun m hm j hj => leavesLeft_eq hm hj) hsorted ?_
  simpa using hleaves

/-- Seven leaves in three mountains: the fifth leaf is the first of the second one, and the seventh is alone. -/
theorem mmrPositionToKIndex_seven :
    mmrPositionToKIndex [1, 4, 7, 10] (size 7) = [(1, 1), (4, 3), (7, 0), (10, 0)] := by
  rw [mmrPositionToKIndex_eq 7 [1, 4, 7, 10] (by decide) (by decide)]
  decide

end Hyperbridge.PalletMmr

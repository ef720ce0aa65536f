import Mathlib.Algebra.Order.Group.Nat
import Mathlib.Data.Nat.BitIndices
import Mathlib.Data.Nat.Factorization.Basic
import Mathlib.Order.WellFounded
import Mathlib.Tactic.Ring

/-!
# Merkle mountain ranges

A range of `n` leaves is a row of perfect trees, one for each binary digit of `n`, the largest first. The nodes are
numbered in the order in which they are appended: each leaf is followed by the parents it completes. So the first
position after `n` leaves is the number of their nodes, and the tree over the leaves from `k` on, where `2 ^ h` divides
`k`, stands in the positions from `size k` on, with its root last.
-/

namespace Hyperbridge.Lib.Mountains

/-- The nodes over `n` leaves, and the position of leaf `n`. -/
def size (n : Nat) : Nat := 2 * n - n.bitIndices.length

theorem size_add_length (n : Nat) : size n + n.bitIndices.length = 2 * n := by
  have hle : n.bitIndices.length ≤ (n.bitIndices.map (2 ^ ·)).sum := by
    simpa using List.length_le_sum_of_one_le (n.bitIndices.map (2 ^ ·)) (by simp [Nat.one_le_two_pow])
  rw [Nat.sum_map_two_pow_bitIndices] at hle
  unfold size
  omega

variable {h k i : Nat}

theorem length_bitIndices_add (hi : i < 2 ^ h) (hk : 2 ^ h ∣ k) :
    (k + i).bitIndices.length = k.bitIndices.length + i.bitIndices.length := by
  induction h generalizing k i with
  | zero =>
    obtain rfl : i = 0 := by simpa using hi
    simp
  | succ h ih =>
    obtain ⟨q, rfl⟩ := hk
    rw [pow_succ'] at hi
    have hk : 2 ^ (h + 1) * q = 2 * (2 ^ h * q) := by ring
    obtain ⟨j, rfl | rfl⟩ := i.even_or_odd'
    · rw [hk, ← mul_add]
      simpa using ih (show j < 2 ^ h by omega) (dvd_mul_right _ _)
    · rw [hk, ← add_assoc, ← mul_add]
      simpa [← add_assoc] using ih (show j < 2 ^ h by omega) (dvd_mul_right _ q)

/-- A range after an aligned one. -/
theorem size_add (hi : i < 2 ^ h) (hk : 2 ^ h ∣ k) : size (k + i) = size k + size i := by
  have hlength := length_bitIndices_add hi hk
  have hsum := size_add_length (k + i)
  have hleft := size_add_length k
  have hright := size_add_length i
  omega

theorem size_two_pow (h : Nat) : size (2 ^ h) = 2 ^ (h + 1) - 1 := by
  simp [size, pow_succ']

theorem size_pred_two_pow (t : Nat) : size (2 ^ t - 1) + t + 2 = 2 ^ (t + 1) := by
  induction t with
  | zero => rfl
  | succ t ih =>
    have hpos := Nat.two_pow_pos t
    have hsplit : 2 ^ (t + 1) - 1 = 2 ^ t + (2 ^ t - 1) := by omega
    rw [hsplit, size_add (show 2 ^ t - 1 < 2 ^ t by omega) dvd_rfl, size_two_pow]
    omega

theorem exists_carry (n : Nat) : ∃ a t, n + 1 = a + 2 ^ t ∧ 2 ^ (t + 1) ∣ a := by
  obtain ⟨t, m, ⟨q, rfl⟩, hn⟩ := Nat.exists_eq_two_pow_mul_odd (Nat.succ_ne_zero n)
  exact ⟨2 ^ (t + 1) * q, t, hn.trans (by ring), dvd_mul_right _ _⟩

section Carry

variable {n a t : Nat} (hn : n + 1 = a + 2 ^ t) (ha : 2 ^ (t + 1) ∣ a)

include hn ha

theorem size_succ_eq : size (n + 1) = size a + (2 ^ (t + 1) - 1) := by
  rw [hn, size_add (Nat.pow_lt_pow_right one_lt_two t.lt_succ_self) ha, size_two_pow]

theorem size_succ : size (n + 1) = size n + t + 1 := by
  have hpos := Nat.two_pow_pos t
  have hsplit : n = a + (2 ^ t - 1) := by omega
  have hsize : size n = size a + size (2 ^ t - 1) := by
    rw [hsplit]
    exact size_add (h := t + 1) (by omega) ha
  have hpred := size_pred_two_pow t
  rw [size_succ_eq hn ha]
  omega

end Carry

theorem size_strictMono : StrictMono size := by
  refine strictMono_nat_of_lt_succ fun n => ?_
  obtain ⟨a, t, hn, ha⟩ := exists_carry n
  rw [size_succ hn ha]
  omega

theorem le_size (n : Nat) : n ≤ size n := size_strictMono.le_apply

def top (k h : Nat) : Nat := size k + (2 ^ (h + 1) - 2)

theorem top_succ (k h : Nat) : top k (h + 1) = top k h + 2 ^ (h + 1) := by
  have hpos := Nat.two_pow_pos h
  unfold top
  omega

theorem top_right (hk : 2 ^ (h + 1) ∣ k) : top (k + 2 ^ h) h = top k h + (2 ^ (h + 1) - 1) := by
  unfold top
  rw [size_add (Nat.pow_lt_pow_right one_lt_two h.lt_succ_self) hk, size_two_pow]
  omega

theorem top_add_one (hk : 2 ^ (h + 1) ∣ k) : top k h + 1 = size (k + 2 ^ h) := by
  have hpos := Nat.two_pow_pos h
  unfold top
  rw [size_add (Nat.pow_lt_pow_right one_lt_two h.lt_succ_self) hk, size_two_pow]
  omega

/-- A node comes after the leaves of its tree. -/
theorem size_le_top_iff (hk : 2 ^ (h + 1) ∣ k) : size i ≤ top k h ↔ i < k + 2 ^ h := by
  rw [← size_strictMono.lt_iff_lt, ← top_add_one hk, Nat.lt_succ_iff]

def parentOffset (height : Nat) : Nat := 2 ^ (height + 1)

def siblingOffset (height : Nat) : Nat := 2 ^ (height + 1) - 1

def heightBelow : Nat → Nat → Nat
  | 0, _ => 0
  | h + 1, pos =>
    if pos = 2 ^ (h + 1 + 1) - 2 then h + 1
    else heightBelow h (if 2 ^ (h + 1) - 1 ≤ pos then pos - (2 ^ (h + 1) - 1) else pos)

/-- The height of a node, in a tree that is large enough. -/
def posHeightInTree (pos : Nat) : Nat := heightBelow pos pos

variable {H : Nat}

theorem subtree_cases (hk : 2 ^ h ∣ k) (hH : k + 2 ^ h ≤ 2 ^ (H + 1)) :
    (k = 0 ∧ h = H + 1) ∨ k + 2 ^ h ≤ 2 ^ H ∨ ∃ k', k = 2 ^ H + k' ∧ 2 ^ h ∣ k' ∧ k' + 2 ^ h ≤ 2 ^ H := by
  have hle : h ≤ H + 1 := (Nat.pow_le_pow_iff_right one_lt_two).mp (by omega)
  obtain rfl | hlt := hle.eq_or_lt
  · exact .inl ⟨by omega, rfl⟩
  · have hH' : 2 ^ h ∣ 2 ^ H := pow_dvd_pow 2 (by omega)
    by_cases hhalf : k < 2 ^ H
    · refine .inr (.inl ?_)
      obtain ⟨q, rfl⟩ := hk
      obtain ⟨r, hr⟩ := hH'
      rw [hr] at hhalf ⊢
      have hq : q + 1 ≤ r := Nat.lt_of_mul_lt_mul_left hhalf
      calc 2 ^ h * q + 2 ^ h = 2 ^ h * (q + 1) := by ring
        _ ≤ 2 ^ h * r := Nat.mul_le_mul_left _ hq
    · obtain ⟨k', rfl⟩ := Nat.exists_eq_add_of_le (not_lt.mp hhalf)
      exact .inr (.inr ⟨k', rfl, (Nat.dvd_add_right hH').mp hk, by omega⟩)

theorem top_two_pow_add (hk : k < 2 ^ H) : top (2 ^ H + k) h = 2 ^ (H + 1) - 1 + top k h := by
  rw [top, size_add hk dvd_rfl, size_two_pow, add_assoc, top]

theorem top_le (hk : 2 ^ h ∣ k) (hH : k + 2 ^ h ≤ 2 ^ H) : top k h ≤ 2 ^ (H + 1) - 2 := by
  induction H generalizing k with
  | zero =>
    have hpos := Nat.two_pow_pos h
    obtain ⟨rfl, hone⟩ : k = 0 ∧ 2 ^ h = 1 := by omega
    have hzero : h = 0 := by simpa using hone
    rw [hzero]
    rfl
  | succ H ih =>
    obtain ⟨rfl, rfl⟩ | hleft | ⟨k', rfl, hk', hright⟩ := subtree_cases hk hH
    · simp [top, size]
    · have hle := ih hk hleft
      omega
    · have hle := ih hk' hright
      have hpos := Nat.two_pow_pos h
      rw [top_two_pow_add (by omega)]
      omega

/-- The height of a root is that of its tree. -/
theorem heightBelow_top (hk : 2 ^ h ∣ k) (hH : k + 2 ^ h ≤ 2 ^ H) : heightBelow H (top k h) = h := by
  induction H generalizing k with
  | zero =>
    have hpos := Nat.two_pow_pos h
    have hone : 2 ^ h = 1 := by omega
    have hzero : h = 0 := by simpa using hone
    rw [heightBelow, hzero]
  | succ H ih =>
    rw [heightBelow]
    obtain ⟨rfl, rfl⟩ | hleft | ⟨k', rfl, hk', hright⟩ := subtree_cases hk hH
    · rw [if_pos (by simp [top, size])]
    · have hle := top_le hk hleft
      have hpos := Nat.two_pow_pos H
      rw [if_neg (by omega), if_neg (by omega), ih hk hleft]
    · have hle := top_le hk' hright
      have hpos := Nat.two_pow_pos h
      have htop := top_two_pow_add (H := H) (h := h) (k := k') (by omega)
      rw [htop, if_neg (by omega), if_pos (by omega), Nat.add_sub_cancel_left, ih hk' hright]

theorem posHeightInTree_top (hk : 2 ^ h ∣ k) : posHeightInTree (top k h) = h := by
  refine heightBelow_top hk ?_
  have hpos := Nat.two_pow_pos h
  have hle : k + 2 ^ h ≤ top k h + 1 := by
    have hsize := le_size k
    unfold top
    omega
  exact hle.trans (top k h).lt_two_pow_self

/-- Over fewer than `2 ^ h` leaves, from `k` on. -/
def mountainsBelow : Nat → Nat → Nat → List (Nat × Nat)
  | 0, _, _ => []
  | h + 1, k, i => if 2 ^ h ≤ i then (k, h) :: mountainsBelow h (k + 2 ^ h) (i - 2 ^ h) else mountainsBelow h k i

/-- As the first leaf and the height of each. -/
def mountains (n : Nat) : List (Nat × Nat) := mountainsBelow n 0 n

theorem mountainsBelow_zero (h k : Nat) : mountainsBelow h k 0 = [] := by
  induction h with
  | zero => rfl
  | succ h ih => rw [mountainsBelow, if_neg (by simp), ih]

/-- More room changes nothing. -/
theorem mountainsBelow_eq {h' : Nat} (hi : i < 2 ^ h) (hle : h ≤ h') :
    mountainsBelow h' k i = mountainsBelow h k i := by
  induction h', hle using Nat.le_induction with
  | base => rfl
  | succ h' hle ih =>
    have hpow := Nat.pow_le_pow_right two_pos hle
    rw [mountainsBelow, if_neg (by omega), ih]

variable {n : Nat}

theorem mountains_eq (hn : n < 2 ^ h) : mountains n = mountainsBelow h 0 n := by
  rw [mountains, ← mountainsBelow_eq hn (le_max_left h n), mountainsBelow_eq n.lt_two_pow_self (le_max_right h n)]

theorem mountainsBelow_add {t a r : Nat} (hr : r < 2 ^ t) (ha : 2 ^ t ∣ a) (hle : t ≤ h) (hlt : a < 2 ^ h) :
    mountainsBelow h k (a + r) = mountainsBelow h k a ++ mountainsBelow t (k + a) r := by
  induction h, hle using Nat.le_induction generalizing k a with
  | base =>
    obtain rfl : a = 0 := Nat.eq_zero_of_dvd_of_lt ha hlt
    rw [Nat.zero_add, mountainsBelow_zero, List.nil_append, Nat.add_zero]
  | succ h hle ih =>
    have hdvd : 2 ^ t ∣ 2 ^ h := pow_dvd_pow 2 hle
    rw [mountainsBelow, mountainsBelow]
    by_cases hhigh : 2 ^ h ≤ a
    · have hsub : a + r - 2 ^ h = a - 2 ^ h + r := by omega
      have hfirst : k + 2 ^ h + (a - 2 ^ h) = k + a := by omega
      rw [if_pos hhigh, if_pos (by omega), hsub, ih (Nat.dvd_sub ha hdvd) (by omega), hfirst, List.cons_append]
    · have hfit : a + r < 2 ^ h := by
        obtain ⟨q, rfl⟩ := ha
        obtain ⟨s, hs⟩ := hdvd
        rw [hs] at hhigh ⊢
        have hq : q + 1 ≤ s := Nat.lt_of_mul_lt_mul_left (not_le.mp hhigh)
        calc 2 ^ t * q + r < 2 ^ t * (q + 1) := by
              rw [mul_add, mul_one]
              omega
          _ ≤ 2 ^ t * s := Nat.mul_le_mul_left _ hq
      rw [if_neg hhigh, if_neg (by omega), ih ha (not_le.mp hhigh)]

/-- A leaf merges the mountains below it. -/
theorem mountains_carry {a t : Nat} (hn : n + 1 = a + 2 ^ t) (ha : 2 ^ (t + 1) ∣ a) :
    mountains n = mountains a ++ mountainsBelow t a (2 ^ t - 1) ∧ mountains (n + 1) = mountains a ++ [(a, t)] := by
  have hpos := Nat.two_pow_pos t
  have hsplit : n = a + (2 ^ t - 1) := by omega
  have hbound : n + 1 < 2 ^ (n + 1) := (n + 1).lt_two_pow_self
  have hlt : a < 2 ^ (n + 1) := by omega
  have hle : t + 1 ≤ n + 1 := by
    have := t.lt_two_pow_self
    omega
  have hbase : mountainsBelow (n + 1) 0 a = mountains a := (mountains_eq hlt).symm
  constructor
  · rw [mountains_eq (show n < 2 ^ (n + 1) by omega)]
    conv_lhs => rw [hsplit]
    have hadd := mountainsBelow_add (h := n + 1) (k := 0) (show 2 ^ t - 1 < 2 ^ t by omega)
      ((pow_dvd_pow 2 t.le_succ).trans ha) (by omega) hlt
    rw [← hsplit] at hadd ⊢
    rw [hadd, hbase, Nat.zero_add]
  · rw [mountains_eq hbound]
    have hadd := mountainsBelow_add (h := n + 1) (k := 0)
      (Nat.pow_lt_pow_right one_lt_two t.lt_succ_self) ha hle hlt
    rw [← hn] at hadd
    rw [hadd, hbase, Nat.zero_add, mountainsBelow, if_pos le_rfl, Nat.sub_self, mountainsBelow_zero]

variable {m : Nat × Nat}

theorem mem_mountainsBelow (hk : 2 ^ h ∣ k) (hi : i < 2 ^ h)
    (hm : m ∈ mountainsBelow h k i) : k ≤ m.1 ∧ m.1 + 2 ^ m.2 ≤ k + i ∧ 2 ^ (m.2 + 1) ∣ m.1 := by
  induction h generalizing k i with
  | zero => cases hm
  | succ h ih =>
    have hk' : 2 ^ h ∣ k := (pow_dvd_pow 2 h.le_succ).trans hk
    rw [mountainsBelow] at hm
    split at hm
    · obtain rfl | hm := List.mem_cons.mp hm
      · exact ⟨le_rfl, Nat.add_le_add_left ‹_› k, hk⟩
      · obtain ⟨hfirst, hlast, hdvd⟩ := ih (dvd_add hk' dvd_rfl) (by omega) hm
        exact ⟨by omega, by omega, hdvd⟩
    · exact ih hk' (by omega) hm

theorem pairwise_mountainsBelow (hk : 2 ^ h ∣ k) (hi : i < 2 ^ h) :
    (mountainsBelow h k i).Pairwise fun m m' => m.1 + 2 ^ m.2 ≤ m'.1 := by
  induction h generalizing k i with
  | zero => exact .nil
  | succ h ih =>
    have hk' : 2 ^ h ∣ k := (pow_dvd_pow 2 h.le_succ).trans hk
    have hdvd : 2 ^ h ∣ k + 2 ^ h := dvd_add hk' dvd_rfl
    rw [mountainsBelow]
    split
    · exact .cons (fun m hm => (mem_mountainsBelow hdvd (by omega) hm).1) (ih hdvd (by omega))
    · exact ih hk' (by omega)

theorem mem_mountains (hm : m ∈ mountains n) : m.1 + 2 ^ m.2 ≤ n ∧ 2 ^ (m.2 + 1) ∣ m.1 := by
  obtain ⟨-, hlast, hdvd⟩ := mem_mountainsBelow (dvd_zero _) n.lt_two_pow_self hm
  exact ⟨by omega, hdvd⟩

/-- The trees have no leaf in common. -/
def Apart (m m' : Nat × Nat) : Prop := m.1 + 2 ^ m.2 ≤ m'.1 ∨ m'.1 + 2 ^ m'.2 ≤ m.1

instance : Std.Symm Apart := ⟨fun _ _ => Or.symm⟩

theorem mountains_apart {m' : Nat × Nat} (hm : m ∈ mountains n) (hm' : m' ∈ mountains n) (hne : m ≠ m') :
    Apart m m' := by
  have hpairwise : (mountains n).Pairwise Apart :=
    (pairwise_mountainsBelow (dvd_zero _) n.lt_two_pow_self).imp Or.inl
  exact hpairwise.forall hm hm' hne

/-- Below height `h`, in `pos` nodes from `start` on. -/
def peaksBelow : Nat → Nat → Nat → List Nat
  | 0, _, _ => []
  | h + 1, start, pos =>
    if 2 ^ (h + 1) - 1 ≤ pos then
      (start + (2 ^ (h + 1) - 2)) :: peaksBelow h (start + (2 ^ (h + 1) - 1)) (pos - (2 ^ (h + 1) - 1))
    else peaksBelow h start pos

/-- The positions of the peaks in a range of so many nodes, the highest mountain first. For `get_peaks` of a mountain
range library this is its assumed standard meaning. -/
def getPeaks (size : Nat) : List Nat := peaksBelow size 0 size

theorem peaksBelow_size (hk : 2 ^ h ∣ k) (hi : i < 2 ^ h) :
    peaksBelow h (size k) (size i) = (mountainsBelow h k i).map fun m => top m.1 m.2 := by
  induction h generalizing k i with
  | zero => rfl
  | succ h ih =>
    have hk' : 2 ^ h ∣ k := (pow_dvd_pow 2 h.le_succ).trans hk
    have hlarge := size_strictMono.le_iff_le (a := 2 ^ h) (b := i)
    rw [size_two_pow] at hlarge
    rw [peaksBelow, mountainsBelow]
    by_cases hhigh : 2 ^ h ≤ i
    · obtain ⟨j, rfl⟩ := Nat.exists_eq_add_of_le hhigh
      have hnext : size (k + 2 ^ h) = size k + (2 ^ (h + 1) - 1) := by
        rw [size_add (Nat.pow_lt_pow_right one_lt_two h.lt_succ_self) hk, size_two_pow]
      have hrest : size (2 ^ h + j) - (2 ^ (h + 1) - 1) = size j := by
        rw [size_add (show j < 2 ^ h by omega) dvd_rfl, size_two_pow, Nat.add_sub_cancel_left]
      rw [if_pos (hlarge.mpr hhigh), if_pos hhigh, List.map_cons, Nat.add_sub_cancel_left, hrest, ← hnext,
        ih (dvd_add hk' dvd_rfl) (by omega), top]
    · rw [if_neg (mt hlarge.mp hhigh), if_neg hhigh, ih hk' (by omega)]

/-- The peaks are the roots of the mountains. -/
theorem getPeaks_size (n : Nat) : getPeaks (size n) = (mountains n).map fun m => top m.1 m.2 := by
  have hlt : n < 2 ^ size n := (le_size n).trans_lt (size n).lt_two_pow_self
  rw [mountains_eq hlt]
  exact peaksBelow_size (dvd_zero _) hlt

theorem top_lt_size (hm : m ∈ mountains n) : top m.1 m.2 < size n := by
  obtain ⟨hn, hdvd⟩ := mem_mountains hm
  rw [← Nat.succ_le_iff, Nat.succ_eq_add_one, top_add_one hdvd]
  exact size_strictMono.monotone hn

theorem length_mountains_le (n : Nat) : (mountains n).length ≤ n := by
  have hbelow (h k i : Nat) : (mountainsBelow h k i).length ≤ h := by
    induction h generalizing k i with
    | zero => exact le_rfl
    | succ h ih =>
      rw [mountainsBelow]
      split
      · exact Nat.succ_le_succ (ih _ _)
      · exact (ih _ _).trans h.le_succ
  exact hbelow n 0 n

section Carry

variable {n a t : Nat} (hn : n + 1 = a + 2 ^ t) (ha : 2 ^ (t + 1) ∣ a)

include hn ha

theorem peaks_carry : ∃ kept merged, getPeaks (size n) = kept ++ merged ∧ getPeaks (size (n + 1)) = kept ++ [top a t] ∧
    kept.length ≤ a ∧ ∀ pos ∈ merged, size a ≤ pos ∧ pos < size n := by
  obtain ⟨hbefore, hafter⟩ := mountains_carry hn ha
  refine ⟨(mountains a).map fun m => top m.1 m.2, (mountainsBelow t a (2 ^ t - 1)).map fun m => top m.1 m.2, ?_, ?_, ?_,
    fun pos hpos => ?_⟩
  · rw [getPeaks_size, hbefore, List.map_append]
  · rw [getPeaks_size, hafter, List.map_append, List.map_singleton]
  · rw [List.length_map]
    exact length_mountains_le a
  · obtain ⟨m, hm, rfl⟩ := List.mem_map.mp hpos
    have hpow := Nat.two_pow_pos t
    obtain ⟨hfirst, -⟩ := mem_mountainsBelow ((pow_dvd_pow 2 t.le_succ).trans ha) (Nat.sub_lt hpow one_pos) hm
    exact ⟨(size_strictMono.monotone hfirst).trans (Nat.le_add_right _ _),
      top_lt_size (hbefore ▸ List.mem_append_right _ hm)⟩

theorem edge_dvd {i : Nat} (hi : i ≤ t) : 2 ^ i ∣ n + 1 - 2 ^ i := by
  rw [hn]
  exact Nat.dvd_sub (dvd_add ((pow_dvd_pow 2 (by omega)).trans ha) (pow_dvd_pow 2 hi)) dvd_rfl

/-- The new parents stand at the end, in a row. -/
theorem top_edge {i : Nat} (hi : i ≤ t) : top (n + 1 - 2 ^ i) i = size n + i := by
  induction i with
  | zero => simp [top]
  | succ i ih =>
    have hpow : 2 ^ (i + 1) ≤ n + 1 := by
      rw [hn]
      exact (Nat.pow_le_pow_right two_pos hi).trans (Nat.le_add_left _ _)
    have hright : n + 1 - 2 ^ (i + 1) + 2 ^ i = n + 1 - 2 ^ i := by omega
    have htop := top_right (h := i) (edge_dvd hn ha hi)
    have hpos := Nat.two_pow_pos i
    rw [hright, ih (by omega)] at htop
    rw [top_succ]
    omega

theorem top_carry : top a t = size n + t := by
  have hedge := top_edge hn ha le_rfl
  rwa [hn, Nat.add_sub_cancel] at hedge

theorem edge_mem_mountains {i : Nat} (hi : i < t) : (n + 1 - 2 ^ (i + 1), i) ∈ mountains n := by
  have hbelow (k t : Nat) (hi : i < t) : (k + 2 ^ t - 2 ^ (i + 1), i) ∈ mountainsBelow t k (2 ^ t - 1) := by
    induction t generalizing k with
    | zero => cases hi
    | succ t ih =>
      have hpos := Nat.two_pow_pos t
      rw [mountainsBelow, if_pos (by omega)]
      obtain rfl | hlt := Nat.lt_succ_iff_lt_or_eq.mp hi |>.symm
      · rw [Nat.add_sub_cancel]
        exact List.mem_cons_self ..
      · have hsum : k + 2 ^ (t + 1) = k + 2 ^ t + 2 ^ t := by omega
        have hrest : 2 ^ (t + 1) - 1 - 2 ^ t = 2 ^ t - 1 := by omega
        rw [hsum, hrest]
        exact List.mem_cons_of_mem _ (ih _ hlt)
  rw [(mountains_carry hn ha).1, hn]
  exact List.mem_append_right _ (hbelow a t hi)

end Carry

end Hyperbridge.Lib.Mountains

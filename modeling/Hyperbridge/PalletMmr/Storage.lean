import Hyperbridge.Lib.Bytes
import Hyperbridge.Lib.Exec
import Hyperbridge.Lib.Mountains

/-!
# The storage of the mountain range

The runtime keeps the hashes of the peaks only, and sends all nodes to the off-chain database. `append` is given the
nodes that a leaf completes: it stores the new peaks and removes those that are no peaks any more.
-/

namespace Hyperbridge.PalletMmr

open Lib Exec Mountains

/-- The hash, and what leaves are hashed as. -/
structure Hashing (Leaf Hash : Type) where
  hash : Bytes → Hash
  asRef : Hash → Bytes
  preimage : Leaf → Bytes

/-- A node: a leaf in full, or a hash. -/
inductive DataOrHash (Leaf Hash : Type) where
  | data (leaf : Leaf)
  | hash (hash : Hash)

/-- The storage, and what was sent off chain, in order. `counter` is that of the counted map; the number of leaves is a
`u64` that no tree comes near. -/
structure State (Leaf Hash Fork : Type) where
  rootHash : Hash
  numberOfLeaves : Nat
  intermediateLeaves : Nat → Option Leaf
  counter : Nat
  nodes : Nat → Option Hash
  indexed : List (Nat × Fork × DataOrHash Leaf Hash)

inductive Error where
  | inconsistentStore
  | push
  | getRoot
  | commit
  deriving DecidableEq

variable {Leaf Hash Fork : Type} (H : Hashing Leaf Hash)

def DataOrHash.getHash : DataOrHash Leaf Hash → Hash
  | .data leaf => H.hash (H.preimage leaf)
  | .hash value => value

def DataOrHash.isData : DataOrHash Leaf Hash → Bool
  | .data _ => true
  | .hash _ => false

/-- The parent of two nodes. -/
def merge (left right : DataOrHash Leaf Hash) : DataOrHash Leaf Hash :=
  .hash (H.hash (H.asRef (left.getHash H) ++ H.asRef (right.getHash H)))

def dropCommon : Nat → List Nat → List Nat → Option (List Nat × List Nat)
  | 0, _, _ => none
  | fuel + 1, peaksBefore, peaksAfter =>
    if peaksBefore.head? = peaksAfter.head? then dropCommon fuel peaksBefore.tail peaksAfter.tail
    else some (peaksBefore, peaksAfter)

/-- `peaks_to_prune_and_store`. -/
def peaksToPruneAndStore (fuel oldSize newSize : Nat) : Option (List Nat × List Nat) :=
  dropCommon fuel (if oldSize = 0 then [] else getPeaks oldSize) (getPeaks newSize)

theorem dropCommon_returns {peaksBefore peaksAfter : List Nat} (hne : peaksBefore ≠ peaksAfter) :
    ∃ peaks, ∀ fuel, peaksBefore.length < fuel → dropCommon fuel peaksBefore peaksAfter = some peaks := by
  induction peaksBefore generalizing peaksAfter with
  | nil =>
    refine ⟨([], peaksAfter), fun fuel hfuel => ?_⟩
    obtain ⟨fuel, rfl⟩ := Nat.exists_eq_add_of_lt hfuel
    cases peaksAfter with
    | nil => exact absurd rfl hne
    | cons peak rest => rfl
  | cons peak rest ih =>
    by_cases hhead : some peak = peaksAfter.head?
    · obtain ⟨rest', rfl⟩ : ∃ rest', peaksAfter = peak :: rest' := ⟨_, List.eq_cons_of_mem_head? hhead.symm⟩
      have hrest : rest ≠ rest' := by simpa using hne
      obtain ⟨peaks, hpeaks⟩ := ih hrest
      refine ⟨peaks, fun fuel hfuel => ?_⟩
      obtain ⟨fuel, rfl⟩ := Nat.exists_eq_add_of_lt hfuel
      rw [dropCommon, List.head?_cons, List.head?_cons, if_pos rfl]
      exact hpeaks _ (by simp only [List.length_cons]; omega)
    · refine ⟨(peak :: rest, peaksAfter), fun fuel hfuel => ?_⟩
      obtain ⟨fuel, rfl⟩ := Nat.exists_eq_add_of_lt hfuel
      rw [dropCommon, if_neg (by simpa using hhead)]

/-- The common front is dropped. -/
theorem dropCommon_append {kept before after : List Nat} (hhead : before.head? ≠ after.head?) {fuel : Nat}
    (hfuel : kept.length < fuel) : dropCommon fuel (kept ++ before) (kept ++ after) = some (before, after) := by
  induction kept generalizing fuel with
  | nil =>
    obtain ⟨fuel, rfl⟩ := Nat.exists_eq_add_of_lt hfuel
    rw [dropCommon, if_neg (by simpa using hhead), List.nil_append, List.nil_append]
  | cons peak rest ih =>
    obtain ⟨fuel, rfl⟩ := Nat.exists_eq_add_of_lt hfuel
    rw [dropCommon, List.cons_append, List.cons_append, List.head?_cons, List.head?_cons, if_pos rfl]
    exact ih (by simp only [List.length_cons]; omega)

theorem peaksBefore_eq (n : Nat) : (if size n = 0 then [] else getPeaks (size n)) = getPeaks (size n) := by
  split
  · next hzero => rw [hzero]; rfl
  · rfl

theorem peaksToPruneAndStore_returns {old new : Nat} (hlt : size old < size new) :
    ∃ peaks, ∀ fuel, old < fuel → peaksToPruneAndStore fuel (size old) (size new) = some peaks := by
  have hpeak : size new - 1 ∈ getPeaks (size new) := by
    have hpos : 0 < new := Nat.pos_of_ne_zero fun hzero => by
      rw [hzero] at hlt
      cases hlt
    obtain ⟨n, rfl⟩ := Nat.exists_eq_add_of_lt hpos
    rw [Nat.zero_add]
    obtain ⟨a, t, hn, ha⟩ := exists_carry n
    obtain ⟨kept, merged, -, hafter, -⟩ := peaks_carry hn ha
    rw [hafter, hn, ← top_add_one ha]
    simp
  have hne : getPeaks (size old) ≠ getPeaks (size new) := by
    intro heq
    rw [← heq, getPeaks_size] at hpeak
    obtain ⟨m, hm, htop⟩ := List.mem_map.mp hpeak
    have hlast := top_lt_size hm
    omega
  obtain ⟨peaks, hpeaks⟩ := dropCommon_returns hne
  refine ⟨peaks, fun fuel hfuel => ?_⟩
  rw [peaksToPruneAndStore, peaksBefore_eq]
  refine hpeaks fuel ?_
  rw [getPeaks_size, List.length_map]
  exact (length_mountains_le old).trans_lt hfuel

/-- Every node goes off chain, and the new peaks on chain. -/
def storeElems (fork : Fork) : List (DataOrHash Leaf Hash) → List Nat → Nat → Nat → State Leaf Hash Fork →
    State Leaf Hash Fork
  | [], _, leafIndex, _, s => { s with numberOfLeaves := leafIndex }
  | elem :: elems, peaksToStore, leafIndex, nodeIndex, s =>
    let isPeak := peaksToStore.head? = some nodeIndex
    storeElems fork elems (if isPeak then peaksToStore.tail else peaksToStore)
      (if elem.isData then leafIndex + 1 else leafIndex) (nodeIndex + 1)
      { s with
        nodes := if isPeak then Function.update s.nodes nodeIndex (some (elem.getHash H)) else s.nodes
        indexed := s.indexed ++ [(nodeIndex, fork, elem)] }

/-- A pruning that does not end is a panic here. -/
def append (fork : Fork) (pos : Nat) (elems : List (DataOrHash Leaf Hash)) : Exec (State Leaf Hash Fork) Error Unit :=
  if elems.isEmpty then pure ()
  else do
    let leaves ← gets State.numberOfLeaves
    throwIf (pos != size leaves) .inconsistentStore
    let newSize := size leaves + elems.length
    let (peaksToPrune, peaksToStore) ← expect "no end" (peaksToPruneAndStore (newSize + 1) (size leaves) newSize)
    modify (storeElems H fork elems peaksToStore leaves (size leaves))
    modify fun s => { s with nodes := fun pos => if peaksToPrune.contains pos then none else s.nodes pos }

theorem storeElems_last (fork : Fork) (elems : List (DataOrHash Leaf Hash)) (last : DataOrHash Leaf Hash)
    (leafIndex nodeIndex : Nat) (s : State Leaf Hash Fork) :
    storeElems H fork (elems ++ [last]) [nodeIndex + elems.length] leafIndex nodeIndex s = { s with
        numberOfLeaves := leafIndex + (elems ++ [last]).countP DataOrHash.isData
        nodes := Function.update s.nodes (nodeIndex + elems.length) (some (last.getHash H))
        indexed := s.indexed ++ ((elems ++ [last]).zipIdx nodeIndex).map fun e => (e.2, fork, e.1) } := by
  induction elems generalizing leafIndex nodeIndex s with
  | nil => cases last <;> simp [storeElems, DataOrHash.isData]
  | cons elem elems ih =>
    have hnot : ¬ nodeIndex + (elem :: elems).length = nodeIndex := by simp
    have hnext : nodeIndex + (elem :: elems).length = nodeIndex + 1 + elems.length := by
      rw [List.length_cons]
      omega
    have hcount : (if elem.isData then leafIndex + 1 else leafIndex) + (elems ++ [last]).countP DataOrHash.isData =
        leafIndex + (elem :: (elems ++ [last])).countP DataOrHash.isData := by
      rw [List.countP_cons]
      split <;> omega
    rw [List.cons_append, storeElems]
    simp only [List.head?_cons, Option.some.injEq, hnot, if_false]
    rw [hnext, ih, hcount]
    simp

section Tree

variable (history : Nat → Leaf)

/-- The root of the tree over the `2 ^ h` leaves from `k` on. -/
def treeHash : Nat → Nat → Hash
  | 0, k => H.hash (H.preimage (history k))
  | h + 1, k => H.hash (H.asRef (treeHash h k) ++ H.asRef (treeHash h (k + 2 ^ h)))

def edge (n j : Nat) : List (DataOrHash Leaf Hash) :=
  .data (history n) :: (List.range j).map fun i => .hash (treeHash H history (i + 1) (n + 1 - 2 ^ (i + 1)))

/-- The nodes that the leaf `n` completes. -/
def appended (n : Nat) : List (DataOrHash Leaf Hash) := edge H history n (size (n + 1) - size n - 1)

/-- A leaf off chain, with its position. -/
def leafOf : Nat × Fork × DataOrHash Leaf Hash → Option (Nat × Leaf)
  | (pos, _, .data leaf) => some (pos, leaf)
  | (_, _, .hash _) => none

structure Holds (n : Nat) (s : State Leaf Hash Fork) : Prop where
  count : s.numberOfLeaves = n
  peaks : ∀ m ∈ mountains n, s.nodes (top m.1 m.2) = some (treeHash H history m.2 m.1)
  exactly : ∀ pos, (s.nodes pos).isSome → pos ∈ getPeaks (size n)
  leaves : s.indexed.filterMap leafOf = (List.range n).map fun i => (size i, history i)

variable {H history} {n : Nat} {s : State Leaf Hash Fork}

theorem edge_succ (n j : Nat) :
    edge H history n (j + 1) = edge H history n j ++ [.hash (treeHash H history (j + 1) (n + 1 - 2 ^ (j + 1)))] := by
  simp [edge, List.range_succ]

theorem length_edge (n j : Nat) : (edge H history n j).length = j + 1 := by
  simp [edge]

variable (H history) in
theorem edge_eq_append (n j : Nat) : ∃ elems last, edge H history n j = elems ++ [last] ∧ elems.length = j ∧
    last.getHash H = treeHash H history j (n + 1 - 2 ^ j) := by
  cases j with
  | zero => exact ⟨[], _, rfl, rfl, rfl⟩
  | succ j => exact ⟨_, _, edge_succ n j, length_edge n j, rfl⟩

theorem countP_edge (n j : Nat) : (edge H history n j).countP DataOrHash.isData = 1 := by
  rw [edge, List.countP_cons_of_pos rfl, List.countP_map]
  simp [Function.comp_def, DataOrHash.isData]

theorem leaves_edge (n j pos : Nat) (fork : Fork) :
    (((edge H history n j).zipIdx pos).map fun e => (e.2, fork, e.1)).filterMap leafOf = [(pos, history n)] := by
  induction j with
  | zero => rfl
  | succ j ih =>
    rw [edge_succ, List.zipIdx_append, List.map_append, List.filterMap_append, ih]
    rfl

theorem size_sub (n : Nat) {a t : Nat} (hn : n + 1 = a + 2 ^ t) (ha : 2 ^ (t + 1) ∣ a) :
    size (n + 1) - size n - 1 = t := by
  rw [size_succ hn ha]
  omega

def afterLeaf (H : Hashing Leaf Hash) (history : Nat → Leaf) (fork : Fork) (n a t : Nat) (merged : List Nat)
    (s : State Leaf Hash Fork) : State Leaf Hash Fork :=
  { s with
    numberOfLeaves := n + 1
    nodes := fun pos =>
      if merged.contains pos then none else Function.update s.nodes (top a t) (some (treeHash H history t a)) pos
    indexed := s.indexed ++ ((edge H history n t).zipIdx (size n)).map fun e => (e.2, fork, e.1) }

section Carry

variable {a t : Nat} (hn : n + 1 = a + 2 ^ t) (ha : 2 ^ (t + 1) ∣ a) {kept merged : List Nat}
  (hbefore : getPeaks (size n) = kept ++ merged) (hafter : getPeaks (size (n + 1)) = kept ++ [top a t])
  (hmerged : ∀ pos ∈ merged, size a ≤ pos ∧ pos < size n)

include hn ha hbefore hafter hmerged

theorem peaksToPruneAndStore_carry (hkept : kept.length ≤ a) :
    peaksToPruneAndStore (size (n + 1) + 1) (size n) (size (n + 1)) = some (merged, [top a t]) := by
  rw [peaksToPruneAndStore, peaksBefore_eq, hbefore, hafter]
  refine dropCommon_append (fun hhead => ?_) ?_
  · have hmem := (hmerged _ (List.mem_of_mem_head? (hhead.trans rfl))).2
    rw [top_carry hn ha] at hmem
    omega
  · have hle := le_size (n + 1)
    omega

/-- What is written for a leaf. -/
theorem append_run_eq (hkept : kept.length ≤ a) (hs : s.numberOfLeaves = n) (fork : Fork) :
    (append H fork (size n) (appended H history n)).run s = (.ok (), afterLeaf H history fork n a t merged s) := by
  obtain ⟨elems, last, hedge, hlength, hlast⟩ := edge_eq_append H history n t
  have hne : (edge H history n t).isEmpty = false := rfl
  have hnew : size n + (edge H history n t).length = size (n + 1) := by
    rw [length_edge, size_succ hn ha, Nat.add_assoc]
  have hstore := storeElems_last H fork elems last n (size n) s
  rw [hn, Nat.add_sub_cancel] at hlast
  rw [← hedge, countP_edge, hlength, ← top_carry hn ha, hlast] at hstore
  rw [appended, size_sub n hn ha, append, hne]
  simp only [Bool.false_eq_true, if_false]
  rw [gets_bind_run, hs, hnew, peaksToPruneAndStore_carry hn ha hbefore hafter hmerged hkept]
  simp only [bne_self_eq_false]
  show (_, _) = _
  rw [hstore]
  rfl

/-- Then the tree has one more leaf. -/
theorem holds_afterLeaf (hs : Holds H history n s) (fork : Fork) :
    Holds H history (n + 1) (afterLeaf H history fork n a t merged s) := by
  have hmono : size a ≤ size n := size_strictMono.monotone (by have := Nat.two_pow_pos t; omega)
  have htop := top_carry hn ha
  obtain ⟨hmountains, hmountains'⟩ := mountains_carry hn ha
  refine ⟨rfl, fun m hm => ?_, fun pos hpos => ?_, ?_⟩
  · rw [hmountains', List.mem_append, List.mem_singleton] at hm
    obtain hm | rfl := hm
    · have hlt := top_lt_size hm
      have hold := hs.peaks m (hmountains ▸ List.mem_append_left _ hm)
      dsimp only [afterLeaf]
      rw [if_neg fun hmem => by have := hmerged _ (List.contains_iff_mem.mp hmem); omega,
        Function.update_of_ne (by omega), hold]
    · dsimp only [afterLeaf]
      rw [if_neg fun hmem => by have := hmerged _ (List.contains_iff_mem.mp hmem); omega, Function.update_self]
  · dsimp only [afterLeaf] at hpos
    split at hpos
    · cases hpos
    · next hnot =>
      rw [hafter, List.mem_append, List.mem_singleton]
      by_cases heq : pos = top a t
      · exact .inr heq
      · rw [Function.update_of_ne heq] at hpos
        have hold := hs.exactly pos hpos
        rw [hbefore, List.mem_append] at hold
        exact .inl (hold.resolve_right fun hmem => hnot (List.contains_iff_mem.mpr hmem))
  · dsimp only [afterLeaf]
    rw [List.filterMap_append, hs.leaves, leaves_edge, List.range_succ, List.map_append, List.map_singleton]

end Carry

theorem append_run (hs : Holds H history n s) (fork : Fork) :
    ∃ s', (append H fork (size n) (appended H history n)).run s = (.ok (), s') ∧ Holds H history (n + 1) s' := by
  obtain ⟨a, t, hn, ha⟩ := exists_carry n
  obtain ⟨kept, merged, hbefore, hafter, hkept, hmerged⟩ := peaks_carry hn ha
  exact ⟨_, append_run_eq hn ha hbefore hafter hmerged hkept hs.count fork,
    holds_afterLeaf hn ha hbefore hafter hmerged hs fork⟩

theorem treeHash_congr {other : Nat → Leaf} {h k : Nat} (hsame : ∀ i < k + 2 ^ h, other i = history i) :
    treeHash H other h k = treeHash H history h k := by
  induction h generalizing k with
  | zero => rw [treeHash, treeHash, hsame k (by omega)]
  | succ h ih =>
    have hpos := Nat.two_pow_pos h
    rw [treeHash, treeHash, ih fun i hi => hsame i (by omega), ih fun i hi => hsame i (by omega)]

theorem Holds.congr (hs : Holds H history n s) {other : Nat → Leaf} (hsame : ∀ i < n, other i = history i) :
    Holds H other n s := by
  refine ⟨hs.count, fun m hm => ?_, hs.exactly, hs.leaves.trans (List.map_congr_left fun i hi => ?_)⟩
  · have hle := (mem_mountains hm).1
    rw [hs.peaks m hm, treeHash_congr fun i hi => hsame i (by omega)]
  · rw [hsame i (List.mem_range.mp hi)]

end Tree

end Hyperbridge.PalletMmr

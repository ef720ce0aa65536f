import Hyperbridge.PalletMmr.Storage

/-!
# The pallet of the mountain range

Leaves are kept in a buffer until `finalize` pushes them to the tree, so `push` has to tell index and position before
the tree has the leaf. The library works on batches of nodes in memory, made from earlier batches or from the peaks in
the store, and written to the store at the end.

The buffer is a counted map with a counter of 32 bits that stays at its highest value. With room in the buffer every
leaf gets to where it was told; the leaf pushed at the highest count is behind what `finalize` takes.
-/

namespace Hyperbridge.PalletMmr

open Lib Exec Mountains

variable {Leaf Hash Fork : Type} (H : Hashing Leaf Hash)

/-- `leaf_index_to_pos`. -/
def leafIndexToPos (index : Nat) : Nat := size index

/-- `Mmr`, with the range of the crate; its `push` and `get_root` are assumed to be the standard ones below. -/
structure Mmr (Leaf Hash : Type) where
  mmrSize : Nat
  memoryBatch : List (Nat × List (DataOrHash Leaf Hash))
  leaves : Nat

def Mmr.new (leaves : Nat) : Mmr Leaf Hash := ⟨size leaves, [], leaves⟩

/-- `MMRBatch::get_elem` of the crate: from the last batch on, then from the store. -/
def readBatches (nodes : Nat → Option Hash) :
    List (Nat × List (DataOrHash Leaf Hash)) → Nat → Option (DataOrHash Leaf Hash)
  | [], pos => (nodes pos).map .hash
  | (start, elems) :: earlier, pos =>
    if pos < start then readBatches nodes earlier pos
    else if pos < start + elems.length then elems[pos - start]?
    else (nodes pos).map .hash

namespace Mmr

variable (nodes : Nat → Option Hash) (mmr : Mmr Leaf Hash)

def getElem (pos : Nat) : Option (DataOrHash Leaf Hash) := readBatches nodes mmr.memoryBatch.reverse pos

/-- Among the nodes of this leaf, or in the range. -/
def findElem (elems : List (DataOrHash Leaf Hash)) (pos : Nat) : Option (DataOrHash Leaf Hash) :=
  (if mmr.mmrSize ≤ pos then elems[pos - mmr.mmrSize]? else none).or (getElem nodes mmr pos)

/-- The loop over the parents that are complete, for some number of rounds. -/
def grow : Nat → Nat → Nat → List (DataOrHash Leaf Hash) → Option (List (DataOrHash Leaf Hash) × Nat)
  | 0, _, _, _ => none
  | fuel + 1, height, pos, elems =>
    if height < posHeightInTree (pos + 1) then do
      let leftPos := pos + 1 - parentOffset height
      let rightPos := leftPos + siblingOffset height
      let left ← findElem nodes mmr elems leftPos
      let right ← findElem nodes mmr elems rightPos
      grow fuel (height + 1) (pos + 1) (elems ++ [merge H left right])
    else some (elems, pos)

/-- `MMR::push` of the crate: the leaf, and every node that it completes. -/
def push (leaf : Leaf) : Option (Mmr Leaf Hash) := do
  let (elems, pos) ← grow H nodes mmr (mmr.mmrSize + 1) 0 mmr.mmrSize [.data leaf]
  some ⟨pos + 1, mmr.memoryBatch ++ [(mmr.mmrSize, elems)], mmr.leaves + 1⟩

/-- `MMR::get_root` of the crate: the peaks are merged from the right. -/
def getRoot : Option (DataOrHash Leaf Hash) := do
  let peaks ← (getPeaks mmr.mmrSize).mapM (getElem nodes mmr)
  match peaks.reverse with
  | [] => none
  | last :: rest => some (rest.foldl (merge H) last)

end Mmr

/-- Where the library fails for reasons of its own, and which keys outlive a `clear` that counts too few. -/
structure Faults where
  push : Nat → Bool
  root : Bool
  spared : Nat → Bool

/-- The root, and then the batches are written. -/
def Mmr.finalize (fork : Fork) (faults : Faults) (mmr : Mmr Leaf Hash) :
    Exec (State Leaf Hash Fork) Error (Nat × Hash) := do
  throwIf faults.root .getRoot
  let root ← query fun s => okOr (mmr.getRoot H s.nodes) .getRoot
  mapErr (fun _ => .commit) (forEach (fun batch => append H fork batch.1 batch.2) mmr.memoryBatch)
  pure (mmr.leaves, root.getHash H)

structure LeafMetadata where
  index : Nat
  position : Nat

/-- The highest value of the counter of the buffer. -/
def maxCount : Nat := 2 ^ 32 - 1

def insertLeaf (key : Nat) (leaf : Leaf) (s : State Leaf Hash Fork) : State Leaf Hash Fork :=
  { s with
    intermediateLeaves := Function.update s.intermediateLeaves key (some leaf)
    counter := if (s.intermediateLeaves key).isSome then s.counter else min (s.counter + 1) maxCount }

/-- `push`: index and position are `u64`s. -/
def push (leaf : Leaf) : Exec (State Leaf Hash Fork) Error LeafMetadata := do
  let tempCount ← gets State.counter
  let numberOfLeaves ← gets State.numberOfLeaves
  let index := (numberOfLeaves + tempCount) % 2 ^ 64
  modify (insertLeaf tempCount leaf)
  pure ⟨index, leafIndexToPos index % 2 ^ 64⟩

/-- The counted leaves, in order. -/
def pushLeaves (faults : Faults) : List Nat → Mmr Leaf Hash → Exec (State Leaf Hash Fork) Error (Mmr Leaf Hash)
  | [], mmr => pure mmr
  | index :: rest, mmr => do
    let buffer ← gets State.intermediateLeaves
    let leaf ← expect "Infallible: Leaf was inserted in this block" (buffer index)
    throwIf (faults.push index) .push
    let mmr ← query fun s => okOr (mmr.push H s.nodes leaf) .push
    pushLeaves faults rest mmr

def clearLeaves (spared : Nat → Bool) (s : State Leaf Hash Fork) : State Leaf Hash Fork :=
  { s with intermediateLeaves := fun key => if spared key then s.intermediateLeaves key else none, counter := 0 }

/-- Nothing is spared if all entries are counted. -/
def Faults.Possible (faults : Faults) (s : State Leaf Hash Fork) : Prop :=
  (∀ key, s.counter ≤ key → s.intermediateLeaves key = none) → ∀ key, faults.spared key = false

/-- `finalize`. -/
def finalize (fork : Fork) (faults : Faults) : Exec (State Leaf Hash Fork) Error Hash := do
  let bufferLen ← gets State.counter
  if bufferLen = 0 then gets State.rootHash
  else do
    let leaves ← gets State.numberOfLeaves
    let mmr ← pushLeaves H faults (List.range bufferLen) (Mmr.new leaves)
    let (leaves, root) ← mapErr (fun _ => .commit) (mmr.finalize H fork faults)
    modify (clearLeaves faults.spared)
    modify fun s => { s with numberOfLeaves := leaves, rootHash := root }
    pure root

inductive Runs (Room : State Leaf Hash Fork → Prop) (history : Nat → Leaf) : Nat → State Leaf Hash Fork → Prop
  | start (root : Hash) : Runs Room history 0 ⟨root, 0, fun _ => none, 0, fun _ => none, []⟩
  | push {m : Nat} {s : State Leaf Hash Fork} :
      Runs Room history m s → Room s → Runs Room history (m + 1) ((push (history m)).run s).2
  | finalize {m : Nat} {s : State Leaf Hash Fork} (fork : Fork) (faults : Faults) :
      Runs Room history m s → faults.Possible s → Runs Room history m ((finalize H fork faults).run s).2

variable {H} {history : Nat → Leaf}

/-- The peaks are found with their hashes. -/
def Reads (H : Hashing Leaf Hash) (history : Nat → Leaf) (n : Nat) (get : Nat → Option (DataOrHash Leaf Hash)) : Prop :=
  ∀ m ∈ mountains n, ∃ node, get (top m.1 m.2) = some node ∧ node.getHash H = treeHash H history m.2 m.1

theorem Holds.reads {n : Nat} {s : State Leaf Hash Fork} (hs : Holds H history n s) :
    Reads H history n ((Mmr.new n : Mmr Leaf Hash).getElem s.nodes) := by
  intro m hm
  refine ⟨.hash (treeHash H history m.2 m.1), ?_, rfl⟩
  show (s.nodes (top m.1 m.2)).map DataOrHash.hash = _
  rw [hs.peaks m hm, Option.map_some]

section Range

variable {nodes : Nat → Option Hash} {mmr : Mmr Leaf Hash} {n : Nat}

theorem grow_eq (hsize : mmr.mmrSize = size n) (hreads : Reads H history n (mmr.getElem nodes)) {a t : Nat}
    (hn : n + 1 = a + 2 ^ t) (ha : 2 ^ (t + 1) ∣ a) {fuel j : Nat} (hj : j ≤ t) (hfuel : t - j < fuel) :
    mmr.grow H nodes fuel j (size n + j) (edge H history n j) = some (edge H history n t, size n + t) := by
  induction fuel generalizing j with
  | zero => cases hfuel
  | succ fuel ih =>
    rw [Mmr.grow]
    obtain rfl | hlt := hj.eq_or_lt
    · have hnext : posHeightInTree (size n + j + 1) = 0 := by
        rw [← size_succ hn ha]
        simpa [top] using posHeightInTree_top (h := 0) (k := n + 1) (one_dvd _)
      rw [hnext, if_neg (Nat.not_lt_zero _)]
    · have hparent : top (n + 1 - 2 ^ (j + 1)) (j + 1) = size n + j + 1 := top_edge hn ha hlt
      have hheight : posHeightInTree (size n + j + 1) = j + 1 := by
        rw [← hparent]
        exact posHeightInTree_top (edge_dvd hn ha hlt)
      have hleftPos : size n + j + 1 - parentOffset j = top (n + 1 - 2 ^ (j + 1)) j := by
        rw [← hparent, top_succ, parentOffset, Nat.add_sub_cancel]
      have hrightPos : top (n + 1 - 2 ^ (j + 1)) j + siblingOffset j = size n + j := by
        have hpos := Nat.two_pow_pos j
        rw [top_succ] at hparent
        rw [siblingOffset]
        omega
      have hmem := edge_mem_mountains hn ha hlt
      obtain ⟨left, hleft, hlefthash⟩ := hreads _ hmem
      have hbelow : ¬ size n ≤ top (n + 1 - 2 ^ (j + 1)) j := not_le.mpr (top_lt_size hmem)
      obtain ⟨elems, right, hedge, hlength, hrighthash⟩ := edge_eq_append H history n j
      have hfindLeft : mmr.findElem nodes (edge H history n j) (top (n + 1 - 2 ^ (j + 1)) j) = some left := by
        rw [Mmr.findElem, hsize, if_neg hbelow, Option.none_or, hleft]
      have hfindRight : mmr.findElem nodes (edge H history n j) (size n + j) = some right := by
        rw [Mmr.findElem, hsize, if_pos (Nat.le_add_right _ _), Nat.add_sub_cancel_left, hedge, ← hlength,
          List.getElem?_concat_length, Option.some_or]
      have hmerge : merge H left right = .hash (treeHash H history (j + 1) (n + 1 - 2 ^ (j + 1))) := by
        have hpow : 2 ^ (j + 1) ≤ n + 1 := by
          rw [hn]
          exact (Nat.pow_le_pow_right two_pos hlt).trans (Nat.le_add_left _ _)
        have hfirst : n + 1 - 2 ^ j = n + 1 - 2 ^ (j + 1) + 2 ^ j := by omega
        rw [merge, hlefthash, hrighthash, hfirst, treeHash]
      rw [hheight, if_pos j.lt_succ_self]
      dsimp only
      rw [hleftPos, hrightPos, hfindLeft, hfindRight]
      show mmr.grow H nodes fuel (j + 1) (size n + j + 1) (edge H history n j ++ [merge H left right]) = _
      rw [hmerge, ← edge_succ]
      exact ih hlt (by omega)

/-- The range with the leaf `n`. -/
def Mmr.next (H : Hashing Leaf Hash) (history : Nat → Leaf) (n : Nat) (mmr : Mmr Leaf Hash) : Mmr Leaf Hash :=
  ⟨size (n + 1), mmr.memoryBatch ++ [(size n, appended H history n)], mmr.leaves + 1⟩

/-- A push to a range that reads right. -/
theorem Mmr.push_eq (hsize : mmr.mmrSize = size n) (hreads : Reads H history n (mmr.getElem nodes)) :
    mmr.push H nodes (history n) = some (mmr.next H history n) := by
  obtain ⟨a, t, hn, ha⟩ := exists_carry n
  have hfuel : t - 0 < size n + 1 := by
    have hle := le_size n
    have hlt := t.lt_two_pow_self
    omega
  have hgrow := grow_eq hsize hreads hn ha t.zero_le hfuel
  rw [Mmr.push, hsize]
  rw [show ([.data (history n)] : List (DataOrHash Leaf Hash)) = edge H history n 0 from rfl,
    show size n = size n + 0 from rfl, hgrow, Mmr.next, appended, size_sub n hn ha, size_succ hn ha]
  rfl

theorem Mmr.next_reads (hreads : Reads H history n (mmr.getElem nodes)) :
    Reads H history (n + 1) ((mmr.next H history n).getElem nodes) := by
  obtain ⟨a, t, hn, ha⟩ := exists_carry n
  obtain ⟨hbefore, hafter⟩ := mountains_carry hn ha
  have hget (pos : Nat) : (mmr.next H history n).getElem nodes pos =
      if pos < size n then mmr.getElem nodes pos
      else if pos < size n + (appended H history n).length then (appended H history n)[pos - size n]?
      else (nodes pos).map .hash := by
    rw [Mmr.getElem, Mmr.next, List.reverse_append]
    rfl
  intro m hm
  rw [hget]
  rw [hafter, List.mem_append, List.mem_singleton] at hm
  obtain hm | rfl := hm
  · have hmem : m ∈ mountains n := hbefore ▸ List.mem_append_left _ hm
    rw [if_pos (top_lt_size hmem)]
    exact hreads m hmem
  · obtain ⟨elems, last, hedge, hlength, hlast⟩ := edge_eq_append H history n t
    rw [hn, Nat.add_sub_cancel] at hlast
    rw [top_carry hn ha, if_neg (by omega), appended, size_sub n hn ha, length_edge, if_pos (by omega),
      Nat.add_sub_cancel_left, hedge, ← hlength, List.getElem?_concat_length]
    exact ⟨last, rfl, hlength ▸ hlast⟩

end Range

/-- The range in memory after some more leaves. -/
def Mmr.after (H : Hashing Leaf Hash) (history : Nat → Leaf) (n : Nat) : Nat → Mmr Leaf Hash
  | 0 => Mmr.new n
  | len + 1 => (Mmr.after H history n len).next H history (n + len)

theorem Mmr.after_memoryBatch (n len : Nat) : (Mmr.after H history n len).memoryBatch =
    (List.range' n len).map fun i => (size i, appended H history i) := by
  induction len with
  | zero => rfl
  | succ len ih =>
    rw [Mmr.after, Mmr.next, ih, List.range'_1_concat, List.map_append]
    rfl

theorem Mmr.after_mmrSize (n len : Nat) : (Mmr.after H history n len).mmrSize = size (n + len) := by
  cases len <;> rfl

theorem Mmr.after_leaves (n len : Nat) : (Mmr.after H history n len).leaves = n + len := by
  induction len with
  | zero => rfl
  | succ len ih => rw [Mmr.after, Mmr.next, ih, Nat.add_assoc]

section Finalize

variable {n m : Nat} {s : State Leaf Hash Fork}

theorem Holds.reads_after (hs : Holds H history n s) (len : Nat) :
    Reads H history (n + len) ((Mmr.after H history n len).getElem s.nodes) := by
  induction len with
  | zero => exact hs.reads
  | succ len ih => exact Mmr.next_reads ih

structure Consistent (H : Hashing Leaf Hash) (leaves : Nat → Leaf) (s : State Leaf Hash Fork) : Prop where
  holds : Holds H leaves s.numberOfLeaves s
  buffer : ∀ i < s.counter, s.intermediateLeaves i = some (leaves (s.numberOfLeaves + i))

theorem pushLeaves_run (hs : Consistent H history s) (faults : Faults) (done len : Nat)
    (hlen : done + len = s.counter) :
    (pushLeaves H faults (List.range' done len) (Mmr.after H history s.numberOfLeaves done)).run s =
      if (List.range' done len).any faults.push then (.err .push, s)
      else (.ok (Mmr.after H history s.numberOfLeaves (done + len)), s) := by
  induction len generalizing done with
  | zero => rfl
  | succ len ih =>
    have hpush : (Mmr.after H history s.numberOfLeaves done).push H s.nodes (history (s.numberOfLeaves + done)) =
        some (Mmr.after H history s.numberOfLeaves (done + 1)) :=
      Mmr.push_eq (Mmr.after_mmrSize _ _) (hs.holds.reads_after done)
    rw [List.range'_succ, List.any_cons, pushLeaves, gets_bind_run, hs.buffer done (by omega)]
    show (throwIf (faults.push done) Error.push >>= fun _ => _).run s = _
    cases faults.push done with
    | true => rfl
    | false =>
      show ((query fun s => okOr ((Mmr.after H history _ done).push H s.nodes _) Error.push) >>= _).run s = _
      rw [bind_run, query_run, hpush]
      have hnext := ih (done + 1) (by omega)
      rw [show done + 1 + len = done + (len + 1) by omega] at hnext
      exact hnext

theorem commit_run (hs : Holds H history n s) (fork : Fork) (len : Nat) :
    ∃ s', (forEach (fun batch => append H fork batch.1 batch.2)
        ((List.range' n len).map fun i => (size i, appended H history i))).run s = (.ok (), s') ∧
      Holds H history (n + len) s' := by
  induction len generalizing n s with
  | zero => exact ⟨s, rfl, hs⟩
  | succ len ih =>
    obtain ⟨s₁, hfirst, hs₁⟩ := append_run hs fork
    obtain ⟨s', hrest, hs'⟩ := ih hs₁
    refine ⟨s', ?_, by rwa [show n + (len + 1) = n + 1 + len by omega]⟩
    rw [List.range'_succ, List.map_cons]
    exact forEach_cons_ok.mpr ⟨(), s₁, hfirst, hrest⟩

/-- A range that reads right has a root. -/
theorem getRoot_eq {nodes : Nat → Option Hash} {mmr : Mmr Leaf Hash} (hsize : mmr.mmrSize = size n)
    (hreads : Reads H history n (mmr.getElem nodes)) (hn : 0 < n) : ∃ root, mmr.getRoot H nodes = some root := by
  have hmapM (ms : List (Nat × Nat)) (hms : ∀ m ∈ ms, m ∈ mountains n) :
      ∃ peaks, (ms.map fun m => top m.1 m.2).mapM (mmr.getElem nodes) = some peaks ∧ peaks.length = ms.length := by
    induction ms with
    | nil => exact ⟨[], rfl, rfl⟩
    | cons m ms ih =>
      obtain ⟨node, hnode, -⟩ := hreads m (hms m (List.mem_cons_self ..))
      obtain ⟨peaks, hpeaks, hlength⟩ := ih fun m' hm' => hms m' (List.mem_cons_of_mem _ hm')
      refine ⟨node :: peaks, ?_, congrArg (· + 1) hlength⟩
      rw [List.map_cons, List.mapM_cons, hnode, hpeaks]
      rfl
  obtain ⟨peaks, hpeaks, hlength⟩ := hmapM (mountains n) fun _ => id
  have hne : (mountains n).length ≠ 0 := by
    obtain ⟨n, rfl⟩ := Nat.exists_eq_add_of_lt hn
    obtain ⟨a, t, hcarry, ha⟩ := exists_carry (0 + n)
    rw [(mountains_carry hcarry ha).2]
    simp
  rw [Mmr.getRoot, hsize, getPeaks_size, hpeaks]
  cases hreverse : peaks.reverse with
  | nil =>
    rw [List.reverse_eq_nil_iff.mp hreverse] at hlength
    exact absurd hlength.symm hne
  | cons last rest => exact ⟨rest.foldl (merge H) last, by simp [hreverse]⟩

theorem Mmr.finalize_run (hs : Holds H history n s) {len : Nat} (hlen : 0 < len) (fork : Fork) {faults : Faults}
    (hroot : faults.root = false) : ∃ root s', ((Mmr.after H history n len).finalize H fork faults).run s =
      (.ok (n + len, root), s') ∧ Holds H history (n + len) s' := by
  obtain ⟨root, hgetRoot⟩ := getRoot_eq (Mmr.after_mmrSize n len) (hs.reads_after len) (by omega)
  obtain ⟨s', hcommit, hs'⟩ := commit_run hs fork len
  refine ⟨root.getHash H, s', ?_, hs'⟩
  rw [Mmr.finalize, throwIf_bind_ok]
  refine ⟨hroot, query_bind_ok.mpr ⟨root, by rw [hgetRoot]; rfl, bind_ok.mpr ⟨(), s', ?_, ?_⟩⟩⟩
  · rw [mapErr_ok, Mmr.after_memoryBatch]
    exact hcommit
  · rw [Mmr.after_leaves]
    rfl

def Faults.stop (faults : Faults) (bufferLen : Nat) : Bool := (List.range bufferLen).any faults.push || faults.root

theorem finalize_run (hs : Consistent H history s) (hpos : 0 < s.counter) (fork : Fork) (faults : Faults) :
    if faults.stop s.counter then ∃ e, (finalize H fork faults).run s = (.err e, s)
    else ∃ root s', (finalize H fork faults).run s = (.ok root, s') ∧ Consistent H history s' ∧
      s'.numberOfLeaves = s.numberOfLeaves + s.counter ∧ s'.counter = 0 ∧
      ∀ key, faults.spared key = false → s'.intermediateLeaves key = none := by
  have hpush := pushLeaves_run hs faults 0 s.counter (by omega)
  rw [← List.range_eq_range', Nat.zero_add, Mmr.after] at hpush
  rw [finalize, gets_bind_run, if_neg hpos.ne', gets_bind_run, bind_run, hpush, Faults.stop]
  cases (List.range s.counter).any faults.push with
  | true => exact ⟨.push, rfl⟩
  | false =>
    cases hroot : faults.root with
    | true =>
      have hfail : (mapErr (fun _ => Error.commit)
          ((Mmr.after H history s.numberOfLeaves s.counter).finalize H fork faults)).run s = (.err .commit, s) := by
        rw [mapErr_run, Mmr.finalize, hroot]
        rfl
      exact ⟨.commit, bind_err.mpr (.inl hfail)⟩
    | false =>
      obtain ⟨root, s', hrun, hs'⟩ := Mmr.finalize_run hs.holds hpos fork hroot
      refine ⟨root, _, bind_ok.mpr ⟨_, _, mapErr_ok.mpr hrun, rfl⟩, ?_, rfl, rfl,
        fun key hkey => if_neg (by simp [hkey])⟩
      exact ⟨⟨rfl, hs'.peaks, hs'.exactly, hs'.leaves⟩, fun i hi => absurd hi (Nat.not_lt_zero i)⟩

theorem finalize_empty (hzero : s.counter = 0) (fork : Fork) (faults : Faults) :
    (finalize H fork faults).run s = (.ok s.rootHash, s) := by
  rw [finalize, gets_bind_run, if_pos hzero]
  rfl

theorem counter_insertLeaf_le (key : Nat) (leaf : Leaf) (s : State Leaf Hash Fork) :
    (insertLeaf key leaf s).counter ≤ s.counter + 1 := by
  show (if (s.intermediateLeaves key).isSome then s.counter else min (s.counter + 1) maxCount) ≤ _
  split <;> omega

theorem Consistent.insertLeaf (hs : Consistent H history s) (leaf : Leaf) :
    Consistent H (Function.update history (s.numberOfLeaves + s.counter) leaf) (insertLeaf s.counter leaf s) := by
  have hsame {i : Nat} (hi : i < s.numberOfLeaves + s.counter) :
      Function.update history (s.numberOfLeaves + s.counter) leaf i = history i := Function.update_of_ne hi.ne _ _
  have hholds := hs.holds.congr fun i hi => hsame (Nat.lt_add_right _ hi)
  refine ⟨⟨rfl, hholds.peaks, hholds.exactly, hholds.leaves⟩, fun i hi => ?_⟩
  show Function.update s.intermediateLeaves s.counter (some leaf) i =
    some (Function.update history (s.numberOfLeaves + s.counter) leaf (s.numberOfLeaves + i))
  have hle := counter_insertLeaf_le s.counter leaf s
  obtain hlt | rfl : i < s.counter ∨ i = s.counter := by omega
  · rw [Function.update_of_ne hlt.ne, hs.buffer i hlt, hsame (by omega)]
  · rw [Function.update_self, Function.update_self]

theorem Runs.consistent {Room : State Leaf Hash Fork → Prop} (hrun : Runs H Room history m s) :
    ∃ leaves, Consistent H leaves s := by
  induction hrun with
  | start root => exact ⟨history, ⟨rfl, nofun, nofun, rfl⟩, nofun⟩
  | push _ _ ih =>
    obtain ⟨leaves, hs⟩ := ih
    exact ⟨_, hs.insertLeaf _⟩
  | @finalize m s fork faults _ _ ih =>
    obtain ⟨leaves, hs⟩ := ih
    refine ⟨leaves, ?_⟩
    obtain hzero | hpos := Nat.eq_zero_or_pos s.counter
    · rwa [finalize_empty hzero]
    · have hcases := finalize_run hs hpos fork faults
      split at hcases
      · obtain ⟨e, herr⟩ := hcases
        rwa [herr]
      · obtain ⟨root, s', hok, hs', -⟩ := hcases
        rwa [hok]

/-- The counter can still go up. -/
def HasRoom (s : State Leaf Hash Fork) : Prop := s.counter < maxCount

instance (s : State Leaf Hash Fork) : Decidable (HasRoom s) := Nat.decLt _ _

structure Counted (H : Hashing Leaf Hash) (history : Nat → Leaf) (m : Nat) (s : State Leaf Hash Fork) : Prop where
  consistent : Consistent H history s
  index : s.numberOfLeaves + s.counter = m
  absent : ∀ i, s.counter ≤ i → s.intermediateLeaves i = none

theorem Counted.insertLeaf (hs : Counted H history m s) (hroom : HasRoom s) :
    Counted H history (m + 1) (insertLeaf s.counter (history m) s) := by
  have hcounter : (PalletMmr.insertLeaf s.counter (history m) s).counter = s.counter + 1 := by
    have hmin : min (s.counter + 1) maxCount = s.counter + 1 := Nat.min_eq_left hroom
    simp [PalletMmr.insertLeaf, hs.absent s.counter le_rfl, hmin]
  have hconsistent := hs.consistent.insertLeaf (history m)
  rw [hs.index, Function.update_eq_self] at hconsistent
  refine ⟨hconsistent, ?_, fun i hi => ?_⟩
  · rw [hcounter, ← hs.index]
    rfl
  · rw [hcounter] at hi
    show Function.update s.intermediateLeaves s.counter (some (history m)) i = none
    rw [Function.update_of_ne (by omega), hs.absent i (by omega)]

theorem Counted.finalize (hs : Counted H history m s) (fork : Fork) {faults : Faults} (hfaults : faults.Possible s) :
    ((∃ e, (finalize H fork faults).run s = (.err e, s)) ∧ faults.stop s.counter = true) ∨
      ∃ root s', (finalize H fork faults).run s = (.ok root, s') ∧ Counted H history m s' ∧ s'.numberOfLeaves = m := by
  obtain hzero | hpos := Nat.eq_zero_or_pos s.counter
  · exact .inr ⟨_, s, finalize_empty hzero fork faults, hs, by rw [← hs.index, hzero, Nat.add_zero]⟩
  · have hcases := finalize_run hs.consistent hpos fork faults
    split at hcases
    · exact .inl ⟨hcases, ‹_›⟩
    · obtain ⟨root, s', hok, hs', hnumber, hcounter, hnone⟩ := hcases
      rw [hs.index] at hnumber
      have hnothing := hfaults hs.absent
      exact .inr ⟨root, s', hok, ⟨hs', by rw [hnumber, hcounter, Nat.add_zero],
        fun i _ => hnone i (hnothing i)⟩, hnumber⟩

theorem Runs.counted {Room : State Leaf Hash Fork → Prop} (hroom : ∀ s, Room s → HasRoom s)
    (hrun : Runs H Room history m s) : Counted H history m s := by
  induction hrun with
  | start root => exact ⟨⟨⟨rfl, nofun, nofun, rfl⟩, nofun⟩, rfl, fun _ _ => rfl⟩
  | push _ hs ih => exact ih.insertLeaf (hroom _ hs)
  | finalize fork faults _ hfaults ih =>
    obtain ⟨⟨e, herr⟩, -⟩ | ⟨root, s', hok, hs', -⟩ := ih.finalize fork hfaults
    · rwa [herr]
    · rwa [hok]

theorem size_le (n : Nat) : size n ≤ 2 * n := Nat.sub_le _ _

/-- What a push says. -/
theorem push_run (hindex : s.numberOfLeaves + s.counter = m) (hfits : leafIndexToPos m < 2 ^ 64) (leaf : Leaf) :
    (push leaf).run s = (.ok ⟨m, leafIndexToPos m⟩, insertLeaf s.counter leaf s) := by
  have hm : m % 2 ^ 64 = m := Nat.mod_eq_of_lt ((le_size m).trans_lt hfits)
  show (Outcome.ok (LeafMetadata.mk ((s.numberOfLeaves + s.counter) % 2 ^ 64)
    (leafIndexToPos ((s.numberOfLeaves + s.counter) % 2 ^ 64) % 2 ^ 64)), _) = _
  rw [hindex, hm, Nat.mod_eq_of_lt hfits]

/-- As long as every leaf is pushed to a buffer with room, it is told the number of leaves pushed before it, and its
position in the tree; whenever `finalize` returns a root, all leaves pushed so far are in the tree, each once, in the
order of the pushes and at those positions. Where it returns an error nothing has changed, and it does so only where the
library fails. -/
theorem leaves_as_told (hrun : Runs H HasRoom history m s) (hfits : leafIndexToPos m < 2 ^ 64) :
    ((push (history m)).run s).1 = .ok ⟨m, leafIndexToPos m⟩ ∧
      s.indexed.filterMap leafOf = (List.range s.numberOfLeaves).map (fun i => (leafIndexToPos i, history i)) ∧
      ∀ (fork : Fork) (faults : Faults), faults.Possible s →
        ((∃ e, (finalize H fork faults).run s = (.err e, s)) ∧ faults.stop s.counter = true) ∨
        ∃ root s', (finalize H fork faults).run s = (.ok root, s') ∧ s'.numberOfLeaves = m ∧ s'.counter = 0 ∧
          (∀ i, s'.intermediateLeaves i = none) ∧
          s'.indexed.filterMap leafOf = (List.range m).map fun i => (leafIndexToPos i, history i) := by
  have hs := hrun.counted fun _ => id
  refine ⟨by rw [push_run hs.index hfits], hs.consistent.holds.leaves, fun fork faults hfaults => ?_⟩
  refine (hs.finalize fork hfaults).imp_right ?_
  rintro ⟨root, s', hok, hs', hall⟩
  have hzero : s'.counter = 0 := by
    have hindex := hs'.index
    omega
  have hleaves := hs'.consistent.holds.leaves
  rw [hall] at hleaves
  exact ⟨root, s', hok, hall, hzero, fun i => hs'.absent i (hzero ▸ i.zero_le), hleaves⟩

/-- On chain there are the peaks, with the hashes of the leaves of the tree, and nothing else; and the search for the
peaks to prune ends for all sizes. The leaves are those that were pushed, if the buffer always had room. -/
theorem nodes_are_peaks {Room : State Leaf Hash Fork → Prop} (hrun : Runs H Room history m s) :
    (∀ pos, (s.nodes pos).isSome ↔ pos ∈ getPeaks (size s.numberOfLeaves)) ∧
      (∃ leaves : Nat → Leaf,
        s.indexed.filterMap leafOf = (List.range s.numberOfLeaves).map (fun i => (leafIndexToPos i, leaves i)) ∧
        ∀ mountain ∈ mountains s.numberOfLeaves,
          s.nodes (top mountain.1 mountain.2) = some (treeHash H leaves mountain.2 mountain.1)) ∧
      ((∀ s, Room s → HasRoom s) → ∀ mountain ∈ mountains s.numberOfLeaves,
        s.nodes (top mountain.1 mountain.2) = some (treeHash H history mountain.2 mountain.1)) ∧
      ∀ old new, size old < size new →
        ∃ peaks, ∀ fuel, old < fuel → peaksToPruneAndStore fuel (size old) (size new) = some peaks := by
  obtain ⟨leaves, hs, -⟩ := hrun.consistent
  refine ⟨fun pos => ⟨hs.exactly pos, fun hpos => ?_⟩, ⟨leaves, hs.leaves, hs.peaks⟩,
    fun hroom => (hrun.counted hroom).consistent.holds.peaks, fun old new => peaksToPruneAndStore_returns⟩
  rw [getPeaks_size] at hpos
  obtain ⟨mountain, hmountain, rfl⟩ := List.mem_map.mp hpos
  rw [hs.peaks mountain hmountain]
  rfl

def sampleHashing : Hashing Nat Bytes := ⟨id, id, fun leaf => [UInt8.ofNat leaf]⟩

def noFaults : Faults := ⟨fun _ => false, false, fun _ => false⟩

def sampleFaults : Faults := { noFaults with push := fun i => i == 1 }

def sampleRun : State Nat Bytes Unit :=
  let s := ((push 7).run ⟨[], 0, fun _ => none, 0, fun _ => none, []⟩).2
  let s := ((push 8).run s).2
  let s := ((finalize sampleHashing () sampleFaults).run s).2
  let s := ((push 9).run s).2
  ((finalize sampleHashing () noFaults).run s).2

theorem sampleRun_runs : Runs sampleHashing HasRoom (fun i => i + 7) 3 sampleRun :=
  .finalize () noFaults (.push (.finalize () sampleFaults
    (.push (.push (.start []) (by decide +kernel)) (by decide +kernel)) fun _ _ => rfl) (by decide +kernel))
      fun _ _ => rfl

/-- The leaves sit at the positions 0, 1 and 3, and the next one is told position 4. -/
theorem leaves_as_told_three :
    ((push 10).run sampleRun).1 = .ok ⟨3, 4⟩ ∧ sampleRun.indexed.filterMap leafOf = [(0, 7), (1, 8), (3, 9)] := by
  obtain ⟨hpush, hleaves, -⟩ := leaves_as_told sampleRun_runs (by decide +kernel)
  exact ⟨hpush, hleaves⟩

theorem nodes_are_peaks_three : sampleRun.nodes 2 = some [7, 8] ∧ sampleRun.nodes 3 = some [9] ∧
    sampleRun.nodes 0 = none := by
  obtain ⟨hexactly, -, hpeaks, -⟩ := nodes_are_peaks sampleRun_runs
  refine ⟨hpeaks (fun _ => id) (0, 1) (by decide), hpeaks (fun _ => id) (2, 0) (by decide), ?_⟩
  exact Option.not_isSome_iff_eq_none.mp (mt (hexactly 0).mp (by decide))

theorem exists_pushed (history : Nat → Leaf) (root : Hash) {m : Nat} (hm : m ≤ maxCount) :
    ∃ s : State Leaf Hash Fork, Runs H HasRoom history m s ∧ s.numberOfLeaves = 0 := by
  induction m with
  | zero => exact ⟨_, .start root, rfl⟩
  | succ m ih =>
    obtain ⟨s, hrun, hzero⟩ := ih (by omega)
    have hindex := (hrun.counted fun _ => id).index
    exact ⟨_, hrun.push (show s.counter < maxCount by omega), hzero⟩

/-- The leaf pushed at the highest count is told the next index and position, and is neither in the tree nor in the
buffer after `finalize`. -/
theorem last_leaf_lost : ∃ (s s' : State Nat Bytes Unit) (root : Bytes), Runs sampleHashing HasRoom id maxCount s ∧
      ((push maxCount).run s).1 = .ok ⟨maxCount, leafIndexToPos maxCount⟩ ∧
      (finalize sampleHashing () noFaults).run ((push maxCount).run s).2 = (.ok root, s') ∧
      s'.numberOfLeaves = maxCount ∧ (∀ i, s'.intermediateLeaves i = none) ∧
      ∀ pos, (pos, maxCount) ∉ s'.indexed.filterMap leafOf := by
  obtain ⟨s, hrun, hzero⟩ : ∃ s : State Nat Bytes Unit, Runs sampleHashing HasRoom id maxCount s ∧
    s.numberOfLeaves = 0 :=
    exists_pushed id [] le_rfl
  have hs := hrun.counted fun _ => id
  have hindex := hs.index
  have hcounter : s.counter = maxCount := by omega
  have hfits : leafIndexToPos maxCount < 2 ^ 64 := (size_le maxCount).trans_lt (by decide)
  have hpush := push_run hindex hfits maxCount
  -- The count stays where it is, so the new leaf is behind all that `finalize` reads.
  have hlost := hs.consistent.insertLeaf maxCount
  rw [hindex] at hlost
  have hstays : (insertLeaf s.counter maxCount s).counter = maxCount := by simp [insertLeaf, hcounter]
  have hfinal := finalize_run hlost (by rw [hstays]; decide) () noFaults
  rw [if_neg (by simp [Faults.stop, noFaults])] at hfinal
  obtain ⟨root, s', hok, hs', hnumber, -, hnone⟩ := hfinal
  rw [hstays, show (insertLeaf s.counter maxCount s).numberOfLeaves = 0 from hzero, Nat.zero_add] at hnumber
  refine ⟨s, s', root, hrun, by rw [hpush], by rw [hpush]; exact hok, hnumber, fun i => hnone i rfl, ?_⟩
  intro pos hmem
  rw [hs'.holds.leaves, hnumber, List.mem_map] at hmem
  obtain ⟨i, hi, heq⟩ := hmem
  have hlt := List.mem_range.mp hi
  rw [Function.update_of_ne hlt.ne] at heq
  exact hlt.ne (congrArg Prod.snd heq)

end Finalize

end Hyperbridge.PalletMmr

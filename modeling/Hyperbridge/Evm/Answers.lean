import Hyperbridge.Beefy.BeefyV1
import Hyperbridge.Evm.Delivery
import Hyperbridge.Evm.Timeouts
import Mathlib.Logic.Relation

/-!
# Answered or timed out

Hyperbridge makes blocks, destinations accept what it has forwarded, and the host runs transactions, in any order.
Hyperbridge forwards or answers a request only before its timeout, in the block that writes the receipt, and keeps the
receipt. So a request that was forwarded or answered has its receipt in every block not before its timeout (`Held`), and
no timeout judged by such a block succeeds.

But the host does not judge by such blocks: `stateCommitment` gives the slot times 12000, which is milliseconds, and the
handler compares it with a timeout in seconds. Almost every block counts as late.
-/

namespace Hyperbridge.Evm

open Lib Exec
open Beefy (Header StateCommitment IntermediateState MmrLeaf)
open Beefy.HeaderImpl (stateCommitment)

structure Network where
  blocks : List HyperBlock
  receipts : H256 → Bool
  now : Nat
  accepted : List PostRequest
  world : World

variable (L : Libraries) (B : Beefy.Libraries) (T : Contents)

structure HeaderOf (blocks : List HyperBlock) (b : HyperBlock) : Prop where
  slot : ∀ digest ∈ b.header.digests, digest.isPreRuntime = true →
    digest.preruntime.consensusId = Beefy.HeaderImpl.auraConsensusId →
    ∀ s, B.decodeUint256 digest.preruntime.data = .ok s → s.toNat = b.slot
  receipts : ∀ state, stateCommitment B b.header = .ok state → ∀ k, b.receipts k = true ↔ ¬ Absent T state k
  answers : ∀ state, stateCommitment B b.header = .ok state → ∀ response : GetResponse,
    T.leaves state.overlayRoot (L.hashGetResponse response) →
    response ∈ b.answered ∨ ∃ b' ∈ blocks, response ∈ b'.answered

/-- The host starts without state commitments, at any time. -/
structure Started (n : Network) : Prop where
  blocks : n.blocks = []
  accepted : n.accepted = []
  trace : n.world.trace = []
  commitments : ∀ height, (n.world.host.stateCommitments height).overlayRoot = BytesN.zero 32 ∧
    (n.world.host.stateCommitments height).stateRoot = BytesN.zero 32

inductive Step : Network → Network → Prop
  | block {n : Network} (b : HyperBlock) (hheader : HeaderOf L B T n.blocks b) (hnow : n.now ≤ b.clock)
      (hforward : ∀ r ∈ b.forwarded, b.clock < (timeout r.timeoutTimestamp).toNat ∧
        b.receipts (L.hashPost r) = true)
      (hanswer : ∀ p ∈ b.answered, b.clock < (timeout p.request.timeoutTimestamp).toNat ∧
        b.receipts (L.hashGet p.request) = true)
      (hdelete : ∀ k, n.receipts k = true → b.receipts k = false → (∀ r ∈ n.accepted, L.hashPost r ≠ k) ∧
        ∀ b' ∈ n.blocks, ∀ p ∈ b'.answered, L.hashGet p.request ≠ k) :
      Step n { n with blocks := b :: n.blocks, receipts := b.receipts, now := b.clock }
  | accept {n : Network} (r : PostRequest) (b : HyperBlock) (hb : b ∈ n.blocks) (hforwarded : r ∈ b.forwarded)
      (hkept : n.receipts (L.hashPost r) = true)
      (hlater : ∀ b' ∈ n.blocks, b.clock < b'.clock → b'.receipts (L.hashPost r) = true) :
      Step n { n with accepted := r :: n.accepted }
  | transact {n : Network} (b : Block) (t : Transaction) (htrue : b.Truthful B n.blocks) :
      Step n { n with world := t.run L b n.world }
  | initialise {n : Network} {w' : World} (b : Block) (caller : Account) (state : Bytes)
      (height : StateMachineHeight) (commitment : StateCommitment) (hseen : Seen B n.blocks commitment)
      (hcall : (setConsensusState L b caller.address state height commitment).run n.world = (.ok (), w')) :
      Step n { n with world := w' }

abbrev Network.Reaches : Network → Network → Prop := Relation.ReflTransGen (Step L B T)

/-- The receipt is in every block from this time on. -/
def Network.Held (n : Network) (k : H256) (time : Nat) : Prop :=
  n.receipts k = true ∧ ∀ b ∈ n.blocks, time ≤ b.clock → b.receipts k = true

/-- The invariant of the network. -/
structure Consistent (n : Network) : Prop where
  past : ∀ b ∈ n.blocks, b.clock ≤ n.now
  headers : ∀ b ∈ n.blocks, HeaderOf L B T n.blocks b
  forwarded : ∀ b ∈ n.blocks, ∀ r ∈ b.forwarded, b.clock < (timeout r.timeoutTimestamp).toNat
  accepted : ∀ r ∈ n.accepted, n.Held (L.hashPost r) (timeout r.timeoutTimestamp).toNat
  answered : ∀ b ∈ n.blocks, ∀ p ∈ b.answered,
    n.Held (L.hashGet p.request) (timeout p.request.timeoutTimestamp).toNat
  justified : Justified L B T n.blocks n.world

variable {L B T} {n n' : Network}

theorem Started.consistent (h : Started n) : Consistent L B T n := by
  have hnone : ∀ t, t ∉ n.world.trace := by simp [h.trace]
  refine ⟨by simp [h.blocks], by simp [h.blocks], by simp [h.blocks], by simp [h.accepted], by simp [h.blocks],
    ?_, ?_, ?_⟩
  · intro height hroot
    obtain ⟨hoverlay, hstate⟩ := h.commitments height
    exact absurd hroot (by simp [hoverlay, hstate])
  · exact fun callback k _ hmem => absurd hmem (hnone _)
  · exact fun response hmem => absurd hmem (hnone _)

variable {blocks : List HyperBlock} {b : HyperBlock}

theorem HeaderOf.cons (h : HeaderOf L B T blocks b) (b' : HyperBlock) : HeaderOf L B T (b' :: blocks) b := by
  refine ⟨h.slot, h.receipts, fun state hstate response hleaf => ?_⟩
  rcases h.answers state hstate response hleaf with hself | ⟨b'', hb'', hanswered⟩
  · exact Or.inl hself
  · exact Or.inr ⟨b'', List.mem_cons_of_mem _ hb'', hanswered⟩

theorem Seen.cons {state : StateCommitment} (h : Seen B blocks state) (b : HyperBlock) :
    Seen B (b :: blocks) state := by
  obtain ⟨b', hb', hstate⟩ := h
  exact ⟨b', List.mem_cons_of_mem _ hb', hstate⟩

theorem Justified.cons {w : World} (h : Justified L B T blocks w) (b : HyperBlock) :
    Justified L B T (b :: blocks) w := by
  refine ⟨fun height hroot => (h.commitments height hroot).cons b, fun callback k hk hmem => ?_,
    fun response hmem => ?_⟩
  · obtain ⟨state, hentry, hseen, habsent⟩ := h.timeouts callback k hk hmem
    exact ⟨state, hentry, hseen.cons b, habsent⟩
  · obtain ⟨state, hseen, hleaf⟩ := h.answers response hmem
    exact ⟨state, hseen.cons b, hleaf⟩

theorem Network.Held.cons {k : H256} {time : Nat} (h : n.Held k time) (hkept : b.receipts k ≠ false) :
    Network.Held { n with blocks := b :: n.blocks, receipts := b.receipts, now := b.clock } k time := by
  have htrue : b.receipts k = true := by simpa using hkept
  exact ⟨htrue, List.forall_mem_cons.mpr ⟨fun _ => htrue, h.2⟩⟩

theorem Consistent.block (h : Consistent L B T n) (hheader : HeaderOf L B T n.blocks b) (hnow : n.now ≤ b.clock)
    (hforward : ∀ r ∈ b.forwarded, b.clock < (timeout r.timeoutTimestamp).toNat)
    (hanswer : ∀ p ∈ b.answered, b.clock < (timeout p.request.timeoutTimestamp).toNat ∧
      b.receipts (L.hashGet p.request) = true)
    (hdelete : ∀ k, n.receipts k = true → b.receipts k = false → (∀ r ∈ n.accepted, L.hashPost r ≠ k) ∧
      ∀ b' ∈ n.blocks, ∀ p ∈ b'.answered, L.hashGet p.request ≠ k) :
    Consistent L B T { n with blocks := b :: n.blocks, receipts := b.receipts, now := b.clock } := by
  refine ⟨List.forall_mem_cons.mpr ⟨le_rfl, fun b' hb' => (h.past b' hb').trans hnow⟩,
    List.forall_mem_cons.mpr ⟨hheader.cons b, fun b' hb' => (h.headers b' hb').cons b⟩,
    List.forall_mem_cons.mpr ⟨hforward, h.forwarded⟩, fun r hr => ?_,
    List.forall_mem_cons.mpr ⟨fun p hp => ?_, fun b' hb' p hp => ?_⟩, h.justified.cons b⟩
  · have hheld := h.accepted r hr
    exact hheld.cons fun hgone => (hdelete _ hheld.1 hgone).1 r hr rfl
  · -- the blocks before this one are before the timeout
    obtain ⟨hearly, hreceipt⟩ := hanswer p hp
    refine ⟨hreceipt, List.forall_mem_cons.mpr ⟨fun _ => hreceipt, fun b' hb' htime => ?_⟩⟩
    have := h.past b' hb'
    omega
  · have hheld := h.answered b' hb' p hp
    exact hheld.cons fun hgone => (hdelete _ hheld.1 hgone).2 b' hb' p hp rfl

theorem Consistent.accept (h : Consistent L B T n) {r : PostRequest} (hb : b ∈ n.blocks)
    (hforwarded : r ∈ b.forwarded) (hkept : n.receipts (L.hashPost r) = true)
    (hlater : ∀ b' ∈ n.blocks, b.clock < b'.clock → b'.receipts (L.hashPost r) = true) :
    Consistent L B T { n with accepted := r :: n.accepted } := by
  have hearly := h.forwarded b hb r hforwarded
  have hheld : n.Held (L.hashPost r) (timeout r.timeoutTimestamp).toNat :=
    ⟨hkept, fun b' hb' htime => hlater b' hb' (by omega)⟩
  exact ⟨h.past, h.headers, h.forwarded, List.forall_mem_cons.mpr ⟨hheld, h.accepted⟩, h.answered, h.justified⟩

theorem justified_setConsensusState {b : Block} {caller : Account} {state : Bytes} {height : StateMachineHeight}
    {commitment : StateCommitment} {w w' : World} (hw : Justified L B T blocks w) (hseen : Seen B blocks commitment)
    (hcall : (setConsensusState L b caller.address state height commitment).run w = (.ok (), w')) :
    Justified L B T blocks w' := by
  have hkeeps : Keeps (Progress L B T blocks) (setConsensusState L b caller.address state height commitment) :=
    (keeps_checks _).bind fun _ => (keeps_checks _).bind fun _ =>
      progress_storeCommitment height hseen fun _ => rfl
  exact (hkeeps.of_ok hcall hw).2

theorem Consistent.world (h : Consistent L B T n) {w' : World} (hw' : Justified L B T n.blocks w') :
    Consistent L B T { n with world := w' } :=
  ⟨h.past, h.headers, h.forwarded, h.accepted, h.answered, hw'⟩

theorem Consistent.step (hsound : ProofsSound L T) (h : Consistent L B T n) (hstep : Step L B T n n') :
    Consistent L B T n' := by
  cases hstep with
  | block b hheader hnow hforward hanswer hdelete =>
    exact h.block hheader hnow (fun r hr => (hforward r hr).1) hanswer hdelete
  | accept r b hb hforwarded hkept hlater => exact h.accept hb hforwarded hkept hlater
  | transact b t htrue =>
    exact h.world (Transaction.run_keeps t (fun entry _ => progress_entries hsound htrue entry) n.world h.justified).2
  | initialise b caller state height commitment hseen hcall =>
    exact h.world (justified_setConsensusState h.justified hseen hcall)

theorem Consistent.reaches (hsound : ProofsSound L T) (h : Consistent L B T n) (hrun : n.Reaches L B T n') :
    Consistent L B T n' := by
  induction hrun with
  | refl => exact h
  | tail _ hstep ih => exact ih.step hsound hstep

theorem Consistent.not_absent (h : Consistent L B T n) {k : H256} {time : Nat} (hheld : n.Held k time)
    {state : StateCommitment} (hseen : Seen B n.blocks state) (hlate : 1000 * time ≤ state.timestamp.toNat) :
    ¬ Absent T state k := by
  obtain ⟨b, hb, hstate⟩ := hseen
  have htimestamp := Beefy.HeaderImpl.stateCommitment_timestamp (h.headers b hb).slot hstate
  have hclock : time ≤ b.clock := by
    rw [HyperBlock.clock]
    omega
  exact ((h.headers b hb).receipts state hstate k).mp (hheld.2 b hb hclock)

/-- The timeout was judged by a clock in seconds. -/
def inSeconds : Trace → Bool
  | .timingOut (.onPostRequestTimeout request) state =>
    decide (1000 * (timeout request.timeoutTimestamp).toNat ≤ state.timestamp.toNat)
  | .timingOut (.onGetTimeout request) state =>
    decide (1000 * (timeout request.timeoutTimestamp).toNat ≤ state.timestamp.toNat)
  | _ => true

/-- If timeouts are judged by clocks in seconds, no request accepted by its destination times out on the host, and no
GET request is both answered and timed out. -/
theorem answered_or_timed_out (hsound : ProofsSound L T) (hstart : Started n) (hrun : n.Reaches L B T n')
    (hseconds : ∀ t ∈ n'.world.trace, inSeconds t = true) :
    (∀ r ∈ n'.accepted, .called (.onPostRequestTimeout r) true ∉ n'.world.trace) ∧
      ∀ response, .called (.onGetResponse response) true ∈ n'.world.trace →
        .called (.onGetTimeout response.request) true ∉ n'.world.trace := by
  have h : Consistent L B T n' := hstart.consistent.reaches hsound hrun
  refine ⟨fun r hr hmem => ?_, fun response hresponse hmem => ?_⟩
  · obtain ⟨state, hentry, hseen, habsent⟩ := h.justified.timeouts _ _ rfl hmem
    exact h.not_absent (h.accepted r hr) hseen (of_decide_eq_true (hseconds _ hentry)) habsent
  · obtain ⟨state, hentry, hseen, habsent⟩ := h.justified.timeouts _ _ rfl hmem
    obtain ⟨answer, ⟨b, hb, hanswer⟩, hleaf⟩ := h.justified.answers response hresponse
    have hheld : n'.Held (L.hashGet response.request) (timeout response.request.timeoutTimestamp).toNat := by
      rcases (h.headers b hb).answers answer hanswer response hleaf with hself | ⟨b', hb', hanswered⟩
      · exact h.answered b hb response hself
      · exact h.answered b' hb' response hanswered
    exact h.not_absent hheld hseen (of_decide_eq_true (hseconds _ hentry)) habsent

/-- It times out at second 1500. -/
def lapsingRequest : PostRequest := { sampleRequest with timeoutTimestamp := 1500 }

def lapsingHash : H256 := BytesN.ofNat 32 0x2b9eeeb5267a861f40bc8b81ce0333018aba664541308792efb5cf2f513cc64f

def emptyRoot : H256 := BytesN.ofNat 32 0x03170a2e7597b7b7e3d84c05391d139a62b157e78786d8c082f29dcf4c111314

def receiptRoot : H256 := BytesN.ofNat 32 9

def leafRoot : H256 := BytesN.ofNat 32 7

/-- The receipt is under `receiptRoot` only. -/
def sampleContents : Contents where
  trie root key := if root = receiptRoot ∧ key = requestReceiptsStorage ++ lapsingHash.bytes then [1] else []
  leaves root leaf := leaf = root ∨ root = BytesN.zero 32

def timeoutLibraries : Libraries :=
  { sampleLibraries (fun r => if r = lapsingRequest then lapsingHash else BytesN.zero 32) (fun _ => BytesN.zero 32)
      fun _ _ => BytesN.zero 32 with
    verifySubstrateProof := fun root proof keys =>
      if root = emptyRoot ∧ proof = [[0]] then .ok (keys.map fun key => ⟨key, []⟩) else .error (.require "") }

theorem proofsSound_sample : ProofsSound timeoutLibraries sampleContents := by
  refine ⟨fun root proof key entry rest h => ?_, fun root proof leaves count h leaf hleaf => ?_⟩
  · simp only [timeoutLibraries] at h
    split at h
    · rename_i hroot
      obtain ⟨rfl, -⟩ := List.cons.inj (Except.ok.inj h)
      have hne : root ≠ receiptRoot := by
        rw [hroot.1]
        decide
      simp [sampleContents, hne]
    · cases h
  · replace h : smallRange (fun _ _ => BytesN.zero 32) root proof leaves count = .ok true := h
    unfold smallRange at h
    split at h
    · rw [List.mem_singleton.mp hleaf]
      exact Or.inl (of_decide_eq_true (Except.ok.inj h)).2.symm
    · exact Or.inr (of_decide_eq_true (Except.ok.inj h)).2
    · exact Or.inr (by simpa using (of_decide_eq_true (Except.ok.inj h)).2)
    · cases h

def hyperHeader (number slot : Nat) (childRoot : H256) : Header where
  parentHash := BytesN.zero 32
  number := .ofNat 256 number
  stateRoot := BytesN.zero 32
  extrinsicRoot := BytesN.zero 32
  digests := [{ isPreRuntime := true, preruntime := ⟨Beefy.HeaderImpl.auraConsensusId, leBytes 8 slot⟩ },
    { isConsensus := true, consensus := ⟨Beefy.HeaderImpl.ismpConsensusId, leafRoot.bytes ++ childRoot.bytes⟩ }]

def hyperState (slot : Nat) (childRoot : H256) : StateCommitment := ⟨.ofNat 256 (slot * 12000), leafRoot, childRoot⟩

def emptyBlock (slot : Nat) : HyperBlock := ⟨hyperHeader 10 slot emptyRoot, slot, fun _ => false, [], []⟩

/-- The request is forwarded at second 1320. -/
def forwardingBlock : HyperBlock where
  header := hyperHeader 20 110 receiptRoot
  slot := 110
  receipts k := decide (k = lapsingHash)
  forwarded := [lapsingRequest]
  answered := []

variable {slot : Nat}

theorem slot_hyperHeader {number : Nat} {childRoot : H256} (hslot : slot < 2 ^ 64) :
    ∀ digest ∈ (hyperHeader number slot childRoot).digests, digest.isPreRuntime = true →
      digest.preruntime.consensusId = Beefy.HeaderImpl.auraConsensusId →
      ∀ s, Beefy.sampleLibraries.decodeUint256 digest.preruntime.data = .ok s → s.toNat = slot := by
  intro digest hdigest hpre _ s hs
  simp only [hyperHeader, List.mem_cons, List.not_mem_nil, or_false] at hdigest
  rcases hdigest with rfl | rfl
  · rw [← Except.ok.inj hs, leValue_leBytes]
    simp
    omega
  · cases hpre

theorem headerOf_sample {number : Nat} {childRoot : H256}
    (hheader : b.header = hyperHeader number slot childRoot) (hslot : b.slot = slot) (hfits : slot < 2 ^ 64)
    (hstate : stateCommitment Beefy.sampleLibraries (hyperHeader number slot childRoot) =
      .ok (hyperState slot childRoot))
    (hreceipts : ∀ k, b.receipts k = true ↔ ¬ Absent sampleContents (hyperState slot childRoot) k) :
    HeaderOf timeoutLibraries Beefy.sampleLibraries sampleContents blocks b := by
  refine ⟨?_, fun state h => ?_, fun state h response hleaf => ?_⟩
  · rw [hheader, hslot]
    exact slot_hyperHeader hfits
  · rw [hheader, hstate] at h
    rw [← Except.ok.inj h]
    exact hreceipts
  · rw [hheader, hstate] at h
    rw [← Except.ok.inj h] at hleaf
    have hne : ¬ sampleContents.leaves leafRoot (BytesN.zero 32) := by
      show ¬ (BytesN.zero 32 = leafRoot ∨ leafRoot = BytesN.zero 32)
      decide
    exact absurd hleaf hne

theorem absent_emptyRoot (slot : Nat) (k : H256) : Absent sampleContents (hyperState slot emptyRoot) k := by
  have hne : emptyRoot ≠ receiptRoot := by decide
  simp [Absent, sampleContents, hyperState, hne]

theorem headerOf_emptyBlock (hfits : slot < 2 ^ 64)
    (hstate : stateCommitment Beefy.sampleLibraries (hyperHeader 10 slot emptyRoot) =
      .ok (hyperState slot emptyRoot)) :
    HeaderOf timeoutLibraries Beefy.sampleLibraries sampleContents [] (emptyBlock slot) := by
  refine headerOf_sample rfl rfl hfits hstate fun k => ?_
  have habsent := absent_emptyRoot slot k
  simp [emptyBlock, habsent]

theorem headerOf_forwardingBlock (blocks : List HyperBlock) :
    HeaderOf timeoutLibraries Beefy.sampleLibraries sampleContents blocks forwardingBlock := by
  have hheader : forwardingBlock.header = hyperHeader 20 110 receiptRoot := rfl
  refine headerOf_sample hheader rfl (by omega) (by decide +kernel) fun k => ?_
  have habsent : Absent sampleContents (hyperState 110 receiptRoot) k ↔ ¬ k = lapsingHash := by
    show (if receiptRoot = receiptRoot ∧ requestReceiptsStorage ++ k.bytes =
      requestReceiptsStorage ++ lapsingHash.bytes then [1] else []) = ([] : Bytes) ↔ _
    simp [BytesN.bytes_injective.eq_iff]
  rw [habsent, not_not]
  simp [forwardingBlock]

def senderAddress : H160 := ⟨List.replicate 20 0x11, rfl⟩

def sampleSender : Account := ⟨senderAddress, by decide⟩

def dispatchTransaction : Transaction :=
  .mk sampleSender (.dispatchPost ⟨otherChain, List.replicate 20 0x22, [], 500, 0, BytesN.ofNat 20 3⟩) [] []

def consensusTransaction : Transaction := .mk sampleRelayer (.handleConsensus []) [] []

def timeoutTransaction : Transaction :=
  .mk sampleRelayer (.handlePostRequestTimeouts ⟨[lapsingRequest], sampleHeight, [[0]]⟩) [.reacts [] true] []

def updateBlock (slot : Nat) : Block :=
  ⟨1210, 1, fun _ _ => .ok ([1], [⟨3367, 10, hyperState slot emptyRoot⟩])⟩

def startNetwork : Network where
  blocks := []
  receipts _ := false
  now := 0
  accepted := []
  world := ⟨{ hostParams := ⟨0, 0, BytesN.ofNat 20 1, BytesN.ofNat 20 2, 86400, 0, otherChain⟩
              latestStateMachineHeight := fun id => if id = 3367 then 1 else 0 }, []⟩

def sentNetwork : Network :=
  { startNetwork with world := dispatchTransaction.run timeoutLibraries sampleBlock startNetwork.world }

def blockNetwork (slot : Nat) : Network :=
  { sentNetwork with
    blocks := emptyBlock slot :: sentNetwork.blocks
    receipts := (emptyBlock slot).receipts
    now := (emptyBlock slot).clock }

def updatedNetwork (slot : Nat) : Network :=
  { blockNetwork slot with
    world := consensusTransaction.run timeoutLibraries (updateBlock slot) (blockNetwork slot).world }

/-- Sent, judged by the block of this slot, and timed out. -/
def timedOutNetwork (slot : Nat) : Network :=
  { updatedNetwork slot with
    world := timeoutTransaction.run timeoutLibraries { sampleBlock with timestamp := 1220 }
      (updatedNetwork slot).world }

theorem started_sample : Started startNetwork := ⟨rfl, rfl, rfl, fun _ => ⟨rfl, rfl⟩⟩

theorem truthful_of_error (timestamp : U256) :
    Block.Truthful Beefy.sampleLibraries blocks { sampleBlock with timestamp := timestamp } := by
  intro trusted proof state intermediates h
  cases h

theorem reaches_timedOutNetwork (slot : Nat) (hfits : slot < 2 ^ 64)
    (hstate : stateCommitment Beefy.sampleLibraries (hyperHeader 10 slot emptyRoot) =
      .ok (hyperState slot emptyRoot)) :
    startNetwork.Reaches timeoutLibraries Beefy.sampleLibraries sampleContents (timedOutNetwork slot) := by
  have hupdate : (updateBlock slot).Truthful Beefy.sampleLibraries [emptyBlock slot] := by
    intro trusted proof state intermediates h i hi
    obtain ⟨-, rfl⟩ := Prod.mk.inj (Except.ok.inj h)
    rw [List.mem_singleton.mp hi]
    exact ⟨emptyBlock slot, by simp, hstate⟩
  have hsent : Step timeoutLibraries Beefy.sampleLibraries sampleContents startNetwork sentNetwork :=
    .transact sampleBlock dispatchTransaction (truthful_of_error 1000)
  have hblock : Step timeoutLibraries Beefy.sampleLibraries sampleContents sentNetwork (blockNetwork slot) := by
    refine .block (emptyBlock slot) (headerOf_emptyBlock hfits hstate) (Nat.zero_le _) ?_ ?_ ?_
    · simp [emptyBlock]
    · simp [emptyBlock]
    · simp [sentNetwork, startNetwork]
  have hupdated : Step timeoutLibraries Beefy.sampleLibraries sampleContents (blockNetwork slot)
      (updatedNetwork slot) := .transact (updateBlock slot) consensusTransaction hupdate
  have htimeout : Step timeoutLibraries Beefy.sampleLibraries sampleContents (updatedNetwork slot)
      (timedOutNetwork slot) :=
    .transact { sampleBlock with timestamp := 1220 } timeoutTransaction (truthful_of_error 1220)
  exact (((Relation.ReflTransGen.single hsent).tail hblock).tail hupdated).tail htimeout

theorem answered_or_timed_out_sample :
    .called (.onPostRequestTimeout lapsingRequest) true ∈ (timedOutNetwork 200).world.trace ∧
    (∀ r ∈ (timedOutNetwork 200).accepted,
      .called (.onPostRequestTimeout r) true ∉ (timedOutNetwork 200).world.trace) ∧
    ∀ response, .called (.onGetResponse response) true ∈ (timedOutNetwork 200).world.trace →
      .called (.onGetTimeout response.request) true ∉ (timedOutNetwork 200).world.trace := by
  have hrun := reaches_timedOutNetwork 200 (by omega) (by decide +kernel)
  refine ⟨by decide +kernel, answered_or_timed_out proofsSound_sample started_sample hrun ?_⟩
  decide +kernel

/-- By a block at second 1200 the request times out; at second 1320 it is forwarded, and then accepted. -/
theorem timed_out_and_accepted :
    ∃ n, ProofsSound timeoutLibraries sampleContents ∧ Started startNetwork ∧
      startNetwork.Reaches timeoutLibraries Beefy.sampleLibraries sampleContents n ∧
      .emitted (.postRequestEvent lapsingRequest 0) ∈ n.world.trace ∧ lapsingRequest ∈ n.accepted ∧
      .called (.onPostRequestTimeout lapsingRequest) true ∈ n.world.trace := by
  have hrun := reaches_timedOutNetwork 100 (by omega) (by decide +kernel)
  refine ⟨_, proofsSound_sample, started_sample, (hrun.tail (.block forwardingBlock
    (headerOf_forwardingBlock _) ?_ ?_ ?_ ?_)).tail (.accept lapsingRequest forwardingBlock ?_ ?_ ?_ ?_), ?_, ?_, ?_⟩
  · decide
  · intro r hr
    rw [List.mem_singleton.mp hr]
    decide +kernel
  · simp [forwardingBlock]
  · simp [timedOutNetwork, updatedNetwork, blockNetwork, emptyBlock]
  · simp
  · simp [forwardingBlock]
  · decide +kernel
  · intro b hb hlater
    rcases List.mem_cons.mp hb with rfl | hb
    · decide +kernel
    · rw [List.mem_singleton.mp hb] at hlater
      exact absurd hlater (by decide)
  · decide +kernel
  · simp
  · decide +kernel

end Hyperbridge.Evm

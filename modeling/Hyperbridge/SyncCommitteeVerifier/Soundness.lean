import Hyperbridge.Lib.Aggregate
import Hyperbridge.Lib.Digits
import Hyperbridge.SyncCommitteeVerifier.Attestation
import Mathlib.Algebra.Group.Int.Defs

/-!
# What an accepted attestation shows

The verifier takes the keys of those who did not sign away from the aggregate of all keys. In a commutative group the
sum of the other keys is left, so an accepted update has the signature of two thirds of the committee of its period. The
rest is read off the Merkle proofs, for any relation between a root and its nodes that they are sound for.
-/

namespace Hyperbridge.SyncCommitteeVerifier

open Lib

/-- Accepted proofs are right about `At root i node`. -/
structure Ssz.Sound (Z : Ssz) (At : Root → Nat → Root → Prop) : Prop where
  branch : ∀ leaf branch depth index root, Z.isValidMerkleBranch leaf branch depth index root = true →
    At root (2 ^ depth + index % 2 ^ depth) leaf
  multiProof : ∀ leaves proof indices, indices.Pairwise Apart → leaves.length = indices.length →
    ∀ p ∈ indices.zip leaves, At (Z.calculateMultiMerkleRoot leaves proof indices) p.1 p.2

inductive Ssz.Opens (Z : Ssz) : Root → Nat → Root → Prop
  | branch (leaf : Root) (branch : List Root) (depth index : Nat) (root : Root)
      (h : Z.isValidMerkleBranch leaf branch depth index root = true) :
      Z.Opens root (2 ^ depth + index % 2 ^ depth) leaf
  | multiProof (leaves proof : List Root) (indices : List Nat) (hapart : indices.Pairwise Apart)
      (hlength : leaves.length = indices.length) (p : Nat × Root) (hp : p ∈ indices.zip leaves) :
      Z.Opens (Z.calculateMultiMerkleRoot leaves proof indices) p.1 p.2

theorem Ssz.sound_opens (Z : Ssz) : Z.Sound Z.Opens := ⟨.branch, .multiProof⟩

section Proofs

variable {Z : Ssz} {C : Config} {At : Root → Nat → Root → Prop} {update : VerifierStateUpdate}

/-- The attested state has the checkpoint. -/
def FinalizedIn (Z : Ssz) (At : Root → Nat → Root → Prop) (attested : Root) (epoch : UInt64)
    (finalized : BeaconBlockHeader) : Prop :=
  ∃ headerRoot checkpointRoot, Z.headerRoot finalized = some headerRoot ∧
    Z.checkpointRoot ⟨epoch, headerRoot⟩ = some checkpointRoot ∧ At attested finalizedRootIndex checkpointRoot

/-- The finalized state has the payload. -/
def PayloadIn (Z : Ssz) (C : Config) (At : Root → Nat → Root → Prop) (finalized : Root)
    (payload : ExecutionPayloadProof) : Prop :=
  ∃ payloadRoot blockNumberRoot timestampRoot, Z.uintRoot payload.blockNumber = some blockNumberRoot ∧
    Z.uintRoot payload.timestamp = some timestampRoot ∧ At finalized executionPayloadIndex payloadRoot ∧
    At payloadRoot C.executionPayloadStateRootIndex payload.stateRoot ∧
    At payloadRoot C.executionPayloadBlockNumberIndex blockNumberRoot ∧
    At payloadRoot C.executionPayloadTimestampIndex timestampRoot

theorem checkFinality_ok (hZ : Z.Sound At) (h : checkFinality Z update = .ok ()) :
    FinalizedIn Z At update.attestedHeader.stateRoot update.finalityProof.epoch update.finalizedHeader := by
  unfold checkFinality at h
  obtain ⟨headerRoot, hheader, h⟩ := except_bind_ok.mp h
  obtain ⟨checkpointRoot, hcheckpoint, h⟩ := except_bind_ok.mp h
  rw [errIf_ok, Bool.not_eq_false] at h
  exact ⟨headerRoot, checkpointRoot, okOr_eq_ok.mp hheader, okOr_eq_ok.mp hcheckpoint, hZ.branch _ _ _ _ _ h⟩

theorem checkExecutionPayload_ok (hZ : Z.Sound At) (h : checkExecutionPayload Z C update = .ok ()) :
    PayloadIn Z C At update.finalizedHeader.stateRoot update.executionPayload := by
  unfold checkExecutionPayload at h
  obtain ⟨blockNumberRoot, hnumber, h⟩ := except_bind_ok.mp h
  obtain ⟨timestampRoot, htimestamp, h⟩ := except_bind_ok.mp h
  rw [errIf_ok, Bool.not_eq_false] at h
  have hleaves := hZ.multiProof [update.executionPayload.stateRoot, blockNumberRoot, timestampRoot]
    update.executionPayload.multiProof _ C.executionPayload_apart rfl
  refine ⟨_, blockNumberRoot, timestampRoot, okOr_eq_ok.mp hnumber, okOr_eq_ok.mp htimestamp,
    hZ.branch _ _ _ _ _ h, ?_, ?_, ?_⟩
  · exact hleaves (_, _) (by simp)
  · exact hleaves (_, _) (by simp)
  · exact hleaves (_, _) (by simp)

end Proofs

section Signature

variable {G1 G2 GT : Type} {B : Bls G1 G2 GT}

/-- The points of the keys. -/
def Points (B : Bls G1 G2 GT) (c : SyncCommittee) (point : Fin syncCommitteeSize → G1) : Prop :=
  ∀ i, B.pubkeyToPoint (c.publicKeys i) = .ok (point i)

/-- The aggregate key is the sum of the keys. -/
def IsAggregate [AddCommGroup G1] (B : Bls G1 G2 GT) (c : SyncCommittee) : Prop :=
  ∃ point, Points B c point ∧ B.pubkeyToPoint c.aggregatePublicKey = .ok (∑ i, point i)

def Verifies (B : Bls G1 G2 GT) (key : G1) (msg : Bytes) (signature : BlsSignature) : Prop :=
  ∃ point, B.signatureToPoint signature = .ok point ∧ B.signatureSubgroupCheck point = true ∧
    B.pairing (B.hashToPoint msg) key = B.pairing point B.generator

/-- Those whose bit is set have signed. -/
def SignedAt [AddCommGroup G1] (B : Bls G1 G2 GT) (c : SyncCommittee) (a : SyncAggregate) (msg : Bytes) : Prop :=
  ∃ point, Points B c point ∧ Verifies B (∑ i with a.syncCommitteeBits i = true, point i) msg a.syncCommitteeSignature

theorem participants_eq_card (a : SyncAggregate) :
    a.participants = (Finset.univ.filter fun i => a.syncCommitteeBits i = true).card :=
  count_true_ofFn a.syncCommitteeBits

theorem mapM_nonParticipants {c : SyncCommittee} {point : Fin syncCommitteeSize → G1} (hpoint : Points B c point)
    (bits : Fin syncCommitteeSize → Bool) :
    (nonParticipantPubkeys bits c.publicKeys).mapM B.pubkeyToPoint =
      .ok (((List.finRange syncCommitteeSize).filter fun i => !bits i).map point) := by
  unfold nonParticipantPubkeys
  rw [filterMap_unset, except_mapM_ok, List.forall₂_map_left_iff, List.forall₂_map_right_iff, List.forall₂_same]
  intro i _
  exact hpoint i

theorem subtractPointsFromAggregate_eq [AddCommGroup G1] {c : SyncCommittee} {point : Fin syncCommitteeSize → G1}
    (hpoint : Points B c point) (haggregate : B.pubkeyToPoint c.aggregatePublicKey = .ok (∑ i, point i))
    (bits : Fin syncCommitteeSize → Bool) :
    subtractPointsFromAggregate B c.aggregatePublicKey (nonParticipantPubkeys bits c.publicKeys) =
      .ok (∑ i with bits i = true, point i) := by
  unfold subtractPointsFromAggregate
  rw [haggregate, mapM_nonParticipants hpoint, ← foldl_sub_unset]
  rfl

theorem verifyAggregateSignature_ok [AddCommGroup G1] [DecidableEq GT] {c : SyncCommittee} {a : SyncAggregate}
    {msg : Bytes} (hc : IsAggregate B c) :
    verifyAggregateSignature B c.aggregatePublicKey (nonParticipantPubkeys a.syncCommitteeBits c.publicKeys) msg
      a.syncCommitteeSignature = .ok () ↔ SignedAt B c a msg := by
  obtain ⟨point, hpoint, haggregate⟩ := hc
  have hunique : ∀ point', Points B c point' → point' = point := by
    intro point' hpoint'
    funext i
    exact Except.ok.inj ((hpoint' i).symm.trans (hpoint i))
  unfold verifyAggregateSignature
  rw [subtractPointsFromAggregate_eq hpoint haggregate]
  constructor
  · intro h
    obtain ⟨key, hkey, h⟩ := except_bind_ok.mp h
    obtain ⟨σ, hσ, h⟩ := except_bind_ok.mp h
    obtain ⟨hsub, h⟩ := errIf_bind_ok.mp h
    obtain rfl := Except.ok.inj hkey
    rw [Bool.not_eq_false] at hsub
    refine ⟨point, hpoint, σ, hσ, hsub, ?_⟩
    by_contra hne
    rw [if_neg hne] at h
    cases h
  · rintro ⟨point', hpoint', σ, hσ, hsub, hpairing⟩
    rw [hunique point' hpoint'] at hpairing
    refine except_bind_ok.mpr ⟨_, rfl, except_bind_ok.mpr ⟨σ, hσ, errIf_bind_ok.mpr ⟨?_, if_pos hpairing⟩⟩⟩
    simp [hsub]

end Signature

section Accepted

variable {G1 G2 GT : Type} [AddCommGroup G1] [DecidableEq GT] {B : Bls G1 G2 GT} {Z : Ssz} {C : Config}
  {trusted s : VerifierState} {update : VerifierStateUpdate}

def period (C : Config) (slot : UInt64) : Nat := (computeSyncCommitteePeriodAtSlot C slot).toNat

/-- What the checks before any hash show. -/
structure Timely (C : Config) (trusted : VerifierState) (update : VerifierStateUpdate) : Prop where
  participants : 342 ≤ (Finset.univ.filter fun i => update.syncAggregate.syncCommitteeBits i = true).card
  attested_lt : update.attestedHeader.slot < update.signatureSlot
  finalized_lt : update.finalizedHeader.slot < update.attestedHeader.slot
  signature_period : period C update.signatureSlot = trusted.statePeriod.toNat ∨
    period C update.signatureSlot = trusted.statePeriod.toNat + 1
  slot_lt : trusted.finalizedHeader.slot < update.attestedHeader.slot
  epoch_lt : trusted.latestFinalizedEpoch < update.finalityProof.epoch

/-- The next period does not wrap around. -/
theorem period_of_between {p q : UInt64} (h : p ≤ q ∧ q ≤ p + 1) : q.toNat = p.toNat ∨ q.toNat = p.toNat + 1 := by
  obtain ⟨hle, hge⟩ := h
  rw [UInt64.le_iff_toNat_le] at hle hge
  rw [UInt64.toNat_add] at hge
  have hp := p.toNat_lt
  have h1 : (1 : UInt64).toNat = 1 := rfl
  omega

theorem checkUpdate_ok (h : checkUpdate C trusted update = .ok ()) : Timely C trusted update := by
  unfold checkUpdate at h
  obtain ⟨-, h⟩ := errIf_bind_ok.mp h
  obtain ⟨hparticipants, h⟩ := errIf_bind_ok.mp h
  obtain ⟨hslots, h⟩ := errIf_bind_ok.mp h
  obtain ⟨hperiod, h⟩ := errIf_bind_ok.mp h
  have hexpired := errIf_ok.mp h
  rw [not_not] at hslots hperiod
  rw [not_or, UInt64.not_le, UInt64.not_le] at hexpired
  rw [participants_eq_card] at hparticipants
  exact ⟨Nat.le_of_not_lt hparticipants, hslots.1, hslots.2, period_of_between hperiod, hexpired.1, hexpired.2⟩

theorem verifySyncCommitteeAttestation_ok :
    verifySyncCommitteeAttestation B Z C trusted update = .ok s ↔
      checkUpdate C trusted update = .ok () ∧ checkSignature B Z C trusted update = .ok () ∧
      checkFinality Z update = .ok () ∧ checkExecutionPayload Z C update = .ok () ∧
      checkNextSyncCommittee Z update = .ok () ∧ nextState C trusted update = .ok s := by
  unfold verifySyncCommitteeAttestation
  rw [except_check_ok, except_check_ok, except_check_ok, except_check_ok, except_check_ok]

theorem checkSignature_ok (hc : IsAggregate B (signingCommittee C trusted update.signatureSlot)) :
    checkSignature B Z C trusted update = .ok () ↔
      ∃ root, signingRoot Z C update.attestedHeader update.signatureSlot = .ok root ∧
        SignedAt B (signingCommittee C trusted update.signatureSlot) update.syncAggregate root.bytes := by
  unfold checkSignature
  rw [except_bind_ok]
  simp only [except_mapError_ok, verifyAggregateSignature_ok hc]

theorem shouldHave_iff (h : Timely C trusted update) :
    shouldHaveSyncCommitteeUpdate trusted.statePeriod (computeSyncCommitteePeriodAtSlot C update.signatureSlot) = true ↔
      period C update.signatureSlot = trusted.statePeriod.toNat + 1 := by
  unfold shouldHaveSyncCommitteeUpdate
  rw [decide_eq_true_iff, ← UInt64.toNat_inj, UInt64.toNat_add]
  have hp := (computeSyncCommitteePeriodAtSlot C update.signatureSlot).toNat_lt
  have h1 : (1 : UInt64).toNat = 1 := rfl
  have hone := h.signature_period
  unfold period at hone ⊢
  omega

/-- The committee of the period. -/
def CommitteeOf (C : Config) (trusted : VerifierState) (slot : UInt64) (c : SyncCommittee) : Prop :=
  (period C slot = trusted.statePeriod.toNat ∧ c = trusted.currentSyncCommittee) ∨
    (period C slot = trusted.statePeriod.toNat + 1 ∧ c = trusted.nextSyncCommittee)

theorem committeeOf_signingCommittee (h : Timely C trusted update) :
    CommitteeOf C trusted update.signatureSlot (signingCommittee C trusted update.signatureSlot) := by
  unfold CommitteeOf signingCommittee
  rcases h.signature_period with hsame | hnext
  · rw [if_pos (UInt64.toNat_inj.mp hsame)]
    exact Or.inl ⟨hsame, rfl⟩
  · have hne : computeSyncCommitteePeriodAtSlot C update.signatureSlot ≠ trusted.statePeriod := by
      intro heq
      rw [period, heq] at hnext
      omega
    rw [if_neg hne]
    exact Or.inr ⟨hnext, rfl⟩

structure Advances (C : Config) (trusted : VerifierState) (update : VerifierStateUpdate)
    (s : VerifierState) : Prop where
  finalizedHeader : s.finalizedHeader = update.finalizedHeader
  latestFinalizedEpoch : s.latestFinalizedEpoch = update.finalityProof.epoch
  committees :
    (period C update.signatureSlot = trusted.statePeriod.toNat ∧ s.statePeriod = trusted.statePeriod ∧
      s.currentSyncCommittee = trusted.currentSyncCommittee ∧ s.nextSyncCommittee = trusted.nextSyncCommittee) ∨
    (period C update.signatureSlot = trusted.statePeriod.toNat + 1 ∧
      s.statePeriod.toNat = trusted.statePeriod.toNat + 1 ∧ s.currentSyncCommittee = trusted.nextSyncCommittee ∧
      ∃ committeeUpdate, update.syncCommitteeUpdate = some committeeUpdate ∧
        s.nextSyncCommittee = committeeUpdate.nextSyncCommittee)

theorem nextState_ok (htimely : Timely C trusted update) (h : nextState C trusted update = .ok s) :
    Advances C trusted update s := by
  unfold nextState at h
  by_cases hrotates : shouldHaveSyncCommitteeUpdate trusted.statePeriod
      (computeSyncCommitteePeriodAtSlot C update.signatureSlot) = true
  · have hperiod := (shouldHave_iff htimely).mp hrotates
    have hnext := of_decide_eq_true hrotates
    rw [if_pos hrotates] at h
    cases hupdate : update.syncCommitteeUpdate with
    | none =>
      rw [hupdate] at h
      cases h
    | some committeeUpdate =>
      rw [hupdate] at h
      obtain rfl := Except.ok.inj h
      refine ⟨rfl, rfl, Or.inr ⟨hperiod, ?_, rfl, committeeUpdate, hupdate, rfl⟩⟩
      rw [← hperiod, period, hnext]
  · have hsame := htimely.signature_period.resolve_right fun hp => hrotates ((shouldHave_iff htimely).mpr hp)
    rw [if_neg hrotates] at h
    obtain rfl := Except.ok.inj h
    exact ⟨rfl, rfl, Or.inl ⟨hsame, rfl, rfl, rfl⟩⟩

theorem signingRoot_ok {header : BeaconBlockHeader} {slot : UInt64} {root : Root} :
    signingRoot Z C header slot = .ok root ↔ ∃ headerRoot forkDataRoot, Z.headerRoot header = some headerRoot ∧
      Z.forkDataRoot (computeForkVersion C (computeEpochAtSlot C slot)) C.genesisValidatorsRoot = some forkDataRoot ∧
      Z.signingDataRoot headerRoot (makeDomain domainSyncCommittee forkDataRoot) = some root := by
  simp only [signingRoot, computeDomain, computeSigningRoot, except_bind_ok, okOr_eq_ok, Option.getD_some,
    Option.bind_eq_some_iff, Option.bind_eq_bind]
  grind

/-- Everything an accepted update shows. Two thirds of the committee of the period of the signature have signed the
attested header, under the sum of exactly their keys; the finalized header is in the attested state and the execution
payload in the finalized one; the epoch moves on and the period by at most one. -/
theorem attestation_sound {At : Root → Nat → Root → Prop} (hZ : Z.Sound At)
    (hcurrent : IsAggregate B trusted.currentSyncCommittee) (hnext : IsAggregate B trusted.nextSyncCommittee)
    (h : verifySyncCommitteeAttestation B Z C trusted update = .ok s) :
    (∃ committee headerRoot forkDataRoot root, CommitteeOf C trusted update.signatureSlot committee ∧
      342 ≤ (Finset.univ.filter fun i => update.syncAggregate.syncCommitteeBits i = true).card ∧
      Z.headerRoot update.attestedHeader = some headerRoot ∧
      Z.forkDataRoot (computeForkVersion C (computeEpochAtSlot C update.signatureSlot)) C.genesisValidatorsRoot =
        some forkDataRoot ∧
      Z.signingDataRoot headerRoot (makeDomain domainSyncCommittee forkDataRoot) = some root ∧
      SignedAt B committee update.syncAggregate root.bytes) ∧
    FinalizedIn Z At update.attestedHeader.stateRoot update.finalityProof.epoch update.finalizedHeader ∧
    PayloadIn Z C At update.finalizedHeader.stateRoot update.executionPayload ∧
    s.finalizedHeader = update.finalizedHeader ∧ s.latestFinalizedEpoch = update.finalityProof.epoch ∧
    trusted.latestFinalizedEpoch < s.latestFinalizedEpoch ∧
    (s.statePeriod.toNat = trusted.statePeriod.toNat ∨ s.statePeriod.toNat = trusted.statePeriod.toNat + 1) := by
  obtain ⟨hupdate, hsignature, hfinality, hpayload, -, hstate⟩ := verifySyncCommitteeAttestation_ok.mp h
  have htimely := checkUpdate_ok hupdate
  have hcommittee := committeeOf_signingCommittee htimely
  have haggregate : IsAggregate B (signingCommittee C trusted update.signatureSlot) := by
    rcases hcommittee with ⟨-, heq⟩ | ⟨-, heq⟩
    · rwa [heq]
    · rwa [heq]
  obtain ⟨root, hroot, hsigned⟩ := (checkSignature_ok haggregate).mp hsignature
  obtain ⟨headerRoot, forkDataRoot, hheader, hfork, hdata⟩ := signingRoot_ok.mp hroot
  have hadvances := nextState_ok htimely hstate
  refine ⟨⟨_, _, _, root, hcommittee, htimely.participants, hheader, hfork, hdata, hsigned⟩,
    checkFinality_ok hZ hfinality,
    checkExecutionPayload_ok hZ hpayload, hadvances.finalizedHeader, hadvances.latestFinalizedEpoch, ?_, ?_⟩
  · rw [hadvances.latestFinalizedEpoch]
    exact htimely.epoch_lt
  · rcases hadvances.committees with ⟨-, hsame, -⟩ | ⟨-, hmoved, -⟩
    · exact Or.inl (congrArg _ hsame)
    · exact Or.inr hmoved

end Accepted

/-- Points are integers, and the pairing multiplies. -/
def sampleBls : Bls ℤ ℤ ℤ where
  pubkeyToPoint key := .ok (beValue key.bytes)
  signatureToPoint signature := .ok (beValue signature.bytes)
  signatureSubgroupCheck point := decide (point ≠ 0)
  hashToPoint msg := beValue msg
  pairing u v := u * v
  generator := 1

/-- All keys of a committee are equal. -/
def sampleCommittee (p : Nat) : SyncCommittee where
  publicKeys _ := BytesN.ofNat 48 (p + 1)
  aggregatePublicKey := BytesN.ofNat 48 (512 * (p + 1))

def sampleSsz : Ssz where
  headerRoot h := some (BytesN.ofNat 32 h.slot.toNat)
  checkpointRoot c := some c.root
  uintRoot n := some (BytesN.ofNat 32 n.toNat)
  syncCommitteeRoot c := if c = sampleCommittee 1 then some (BytesN.ofNat 32 1) else none
  forkDataRoot version root := some (makeDomain version root)
  signingDataRoot root domain := some (BytesN.ofNat 32 (beValue root.bytes + beValue domain.bytes))
  isValidMerkleBranch leaf branch depth index root := branch.length = depth &&
    [(81, finalizedRootIndex, 8128), (81, nextSyncCommitteeIndex, 1), (80, nextSyncCommitteeIndex, 1),
      (80, executionPayloadIndex, 7)].any fun node =>
        root = BytesN.ofNat 32 node.1 && index = node.2.1 && leaf = BytesN.ofNat 32 node.2.2
  calculateMultiMerkleRoot leaves _ _ := leaves.headD (BytesN.zero 32)

def sampleHeader (slot : UInt64) (stateRoot : Nat) : BeaconBlockHeader :=
  ⟨slot, 0, BytesN.zero 32, BytesN.ofNat 32 stateRoot, BytesN.zero 32⟩

def sampleTrusted : VerifierState :=
  ⟨sampleHeader 0 0, 0, sampleCommittee 0, sampleCommittee 1, 0⟩

def sampleSigningRoot : Root :=
  BytesN.ofNat 32 (8191 + beValue
    (makeDomain domainSyncCommittee (makeDomain mainnet.genesisForkVersion mainnet.genesisValidatorsRoot)).bytes)

def sampleUpdate : VerifierStateUpdate where
  attestedHeader := sampleHeader 8191 81
  syncCommitteeUpdate := some ⟨sampleCommittee 1, List.replicate 5 (BytesN.zero 32)⟩
  finalizedHeader := sampleHeader 8128 80
  executionPayload := ⟨BytesN.ofNat 32 7, 100, [], List.replicate 5 (BytesN.zero 32), 1000⟩
  finalityProof := ⟨254, List.replicate 5 (BytesN.zero 32)⟩
  syncAggregate := ⟨fun i => decide (i.val < 342), BytesN.ofNat 96 (beValue sampleSigningRoot.bytes * (342 * 2))⟩
  signatureSlot := 8192

def sampleNext : VerifierState :=
  ⟨sampleHeader 8128 80, 254, sampleCommittee 1, sampleCommittee 1, 1⟩

theorem sampleCommittee_points (p : Nat) :
    Points sampleBls (sampleCommittee p) fun _ => (beValue (BytesN.ofNat 48 (p + 1)).bytes : ℤ) := by
  intro _
  rfl

theorem sampleCommittee_isAggregate {p : Nat} (hp : p < 256) : IsAggregate sampleBls (sampleCommittee p) := by
  have hvalue : ∀ n, n < 256 ^ 48 → beValue (BytesN.ofNat 48 n).bytes = n := by
    intro n hn
    exact (beValue_beBytes 48 n).trans (Nat.mod_eq_of_lt hn)
  refine ⟨_, sampleCommittee_points p, ?_⟩
  rw [Finset.sum_const, Finset.card_univ, Fintype.card_fin, hvalue (p + 1) (by omega)]
  simp [sampleBls, sampleCommittee, hvalue (512 * (p + 1)) (by omega), syncCommitteeSize]

theorem sampleUpdate_checkSignature :
    checkSignature sampleBls sampleSsz mainnet sampleTrusted sampleUpdate = .ok () := by
  decide +kernel

theorem sampleUpdate_accepted :
    verifySyncCommitteeAttestation sampleBls sampleSsz mainnet sampleTrusted sampleUpdate = .ok sampleNext := by
  have hupdate : checkUpdate mainnet sampleTrusted sampleUpdate = .ok () := by decide +kernel
  have hfinality : checkFinality sampleSsz sampleUpdate = .ok () := by decide +kernel
  have hpayload : checkExecutionPayload sampleSsz mainnet sampleUpdate = .ok () := by decide +kernel
  have hnext : checkNextSyncCommittee sampleSsz sampleUpdate = .ok () := by decide +kernel
  exact verifySyncCommitteeAttestation_ok.mpr ⟨hupdate, sampleUpdate_checkSignature, hfinality, hpayload, hnext, rfl⟩

theorem attestation_sound_sample :
    SignedAt sampleBls (sampleCommittee 1) sampleUpdate.syncAggregate sampleSigningRoot.bytes ∧
      FinalizedIn sampleSsz sampleSsz.Opens (BytesN.ofNat 32 81) 254 (sampleHeader 8128 80) ∧
      PayloadIn sampleSsz mainnet sampleSsz.Opens (BytesN.ofNat 32 80) sampleUpdate.executionPayload := by
  obtain ⟨⟨committee, headerRoot, forkDataRoot, root, hcommittee, -, hheader, hfork, hroot, hsigned⟩, hfinalized,
    hpayload, -⟩ :=
    attestation_sound sampleSsz.sound_opens (sampleCommittee_isAggregate (by decide))
      (sampleCommittee_isAggregate (by decide)) sampleUpdate_accepted
  rcases hcommittee with ⟨hperiod, -⟩ | ⟨-, rfl⟩
  · exact absurd hperiod (by decide)
  · obtain rfl := Option.some.inj hheader
    obtain rfl := Option.some.inj hfork
    obtain rfl := Option.some.inj hroot
    exact ⟨hsigned, hfinalized, hpayload⟩

end Hyperbridge.SyncCommitteeVerifier

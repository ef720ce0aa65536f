import Hyperbridge.Beefy.Codec
import Mathlib.Data.Finset.Card

/-!
# The BEEFY client

`BeefyV1.verifyConsensus` checks a commitment that a quorum has signed, a leaf of the mountain range in it, and a
parachain header under the heads root of that leaf. Whether there are enough votes is asked for the current set and the
next one, and either answer is enough; whether the signers are members is asked of the set the commitment names. The
votes are counted, not the authorities behind them.
-/

namespace Hyperbridge.Beefy

open Lib

structure Vote where
  signature : Bytes
  authorityIndex : U256
  deriving DecidableEq

structure SignedCommitment where
  commitment : Commitment
  votes : List Vote
  deriving DecidableEq

structure RelayChainProof where
  signedCommitment : SignedCommitment
  latestMmrLeaf : BeefyMmrLeaf
  mmrProof : List H256
  proof : List (List Node)
  deriving DecidableEq

structure Parachain where
  index : U256
  id : U256
  header : Bytes
  deriving DecidableEq

structure ParachainProof where
  parachain : Parachain
  proof : List (List Node)
  deriving DecidableEq

structure BeefyConsensusProof where
  relay : RelayChainProof
  parachain : ParachainProof
  deriving DecidableEq

variable (L : Libraries)

/-- `len >= ((2 * total) / 3) + 1`. -/
def checkParticipationThreshold (len total : U256) : Call Bool := do
  let twice ← U256.mul 2 total
  let bound ← U256.add (twice / 3) 1
  pure (decide (bound.toNat ≤ len.toNat))

def checkParticipation (state : BeefyConsensusState) (votes : U256) : Call Unit := do
  let current ← checkParticipationThreshold votes state.currentAuthoritySet.len
  if current then pure ()
  else do
    let next ← checkParticipationThreshold votes state.nextAuthoritySet.len
    revertIf (next = false) (.error "SuperMajorityRequired")

def mmrRootPayloadId : BytesN 2 := ⟨[109, 104], rfl⟩

def readRoot (root : H256) (item : Payload) : Call H256 :=
  if item.id = mmrRootPayloadId ∧ item.data.length = 32 then L.toBytes32 item.data else pure root

/-- The last root in the payload; zero stands for none. -/
def mmrRootOf (commitment : Commitment) : Call H256 := commitment.payload.foldlM (readRoot L) (BytesN.zero 32)

def commitmentHash (commitment : Commitment) : H256 := L.keccak256 (Codec.encodeCommitment L commitment)

/-- The leaf of the authority whose signature a vote has. -/
def recoverAuthority (hash : H256) (vote : Vote) : Call Node := do
  let authority ← L.recover hash vote.signature
  pure ⟨vote.authorityIndex, L.keccak256 authority.bytes⟩

def namedSet (state : BeefyConsensusState) (commitment : Commitment) : AuthoritySetCommitment :=
  if commitment.validatorSetId = state.currentAuthoritySet.id then state.currentAuthoritySet
  else state.nextAuthoritySet

/-- `leafIndex(activationBlock, parentNumber)`. -/
def leafIndex (activationBlock parentNumber : U256) : Call U256 :=
  if activationBlock = 0 then pure parentNumber else U256.sub parentNumber activationBlock

def verifyMmrLeaf (state : BeefyConsensusState) (relay : RelayChainProof) (mmrRoot : H256) : Call Unit := do
  let hash := L.keccak256 (Codec.encodeLeaf L relay.latestMmrLeaf.toPartialBeefyMmrLeaf)
  let leafCount ← U256.add (← leafIndex state.beefyActivationBlock relay.latestMmrLeaf.parentNumber) 1
  let valid ← L.verifyMmr mmrRoot relay.mmrProof
    [⟨relay.latestMmrLeaf.kIndex, relay.latestMmrLeaf.leafIndex, hash⟩] leafCount
  revertIf (valid = false) (.error "InvalidMmrProof")

def advance (state : BeefyConsensusState) (height : U256) (next : AuthoritySetCommitment) :
    BeefyConsensusState :=
  if state.nextAuthoritySet.id.toNat < next.id.toNat then
    { state with currentAuthoritySet := state.nextAuthoritySet, nextAuthoritySet := next, latestHeight := height }
  else { state with latestHeight := height }

def verifyMmrUpdateProof (state : BeefyConsensusState) (relay : RelayChainProof) :
    Call (BeefyConsensusState × H256) := do
  let commitment := relay.signedCommitment.commitment
  let votes := relay.signedCommitment.votes
  revertIf (commitment.blockNumber.toNat ≤ state.latestHeight.toNat) (.error "StaleHeight")
  checkParticipation state (.ofNat 256 votes.length)
  revertIf (commitment.validatorSetId ≠ state.currentAuthoritySet.id ∧
    commitment.validatorSetId ≠ state.nextAuthoritySet.id) (.error "UnknownAuthoritySet")
  let mmrRoot ← mmrRootOf L commitment
  revertIf (mmrRoot = BytesN.zero 32) (.error "MmrRootHashMissing")
  let authorities ← votes.mapM (recoverAuthority L (commitmentHash L commitment))
  let valid ← L.verifyMultiProof (namedSet state commitment).root relay.proof authorities
  revertIf (valid = false) (.error "InvalidAuthoritiesProof")
  verifyMmrLeaf L state relay mmrRoot
  pure (advance state commitment.blockNumber relay.latestMmrLeaf.nextAuthoritySet, relay.latestMmrLeaf.extra)

/-- The leaf of a parachain header under the heads root. -/
def headLeaf (id : BitVec 32) (header : Bytes) : H256 := L.keccak256 (L.encode32 id ++ L.encodeBytes header)

def verifyParachainHeaderProof (headsRoot : H256) (proof : ParachainProof) : Call IntermediateState := do
  let para := proof.parachain
  let header ← Codec.decodeHeader L para.header
  revertIf (header.number = 0) (.error "IllegalGenesisBlock")
  let valid ← L.verifyMultiProof headsRoot proof.proof [⟨para.index, headLeaf L (para.id.setWidth 32) para.header⟩]
  revertIf (valid = false) (.error "InvalidMmrProof")
  let commitment ← HeaderImpl.stateCommitment L header
  pure ⟨para.id, header.number, commitment⟩

def verifyConsensus (state : BeefyConsensusState) (proof : BeefyConsensusProof) :
    Call (BeefyConsensusState × IntermediateState) := do
  let (state, headsRoot) ← verifyMmrUpdateProof L state proof.relay
  let intermediate ← verifyParachainHeaderProof L headsRoot proof.parachain
  pure (state, intermediate)

variable {L} {state state' : BeefyConsensusState} {proof : BeefyConsensusProof} {relay : RelayChainProof}
  {headsRoot : H256} {intermediate : IntermediateState}

theorem advance_height (height : U256) (n : AuthoritySetCommitment) :
    (advance state height n).latestHeight = height := by
  unfold advance
  split <;> rfl

theorem recovered_mem {hash : H256} {votes : List Vote} {nodes : List Node}
    (h : votes.mapM (recoverAuthority L hash) = .ok nodes) {vote : Vote} (hvote : vote ∈ votes) :
    ∃ authority, L.recover hash vote.signature = .ok authority ∧
      ⟨vote.authorityIndex, L.keccak256 authority.bytes⟩ ∈ nodes := by
  obtain ⟨node, hmem, hnode⟩ := forall₂_mem (except_mapM_ok.mp h) hvote
  obtain ⟨authority, hrecover, hend⟩ := except_bind_ok.mp hnode
  obtain rfl := Except.ok.inj hend
  exact ⟨authority, hrecover, hmem⟩

/-- What an accepted relay chain proof has passed. -/
structure Accepted (L : Libraries) (state : BeefyConsensusState) (relay : RelayChainProof) (mmrRoot : H256)
    (authorities : List Node) : Prop where
  root : mmrRootOf L relay.signedCommitment.commitment = .ok mmrRoot
  rootFound : mmrRoot ≠ BytesN.zero 32
  recovered : relay.signedCommitment.votes.mapM
    (recoverAuthority L (commitmentHash L relay.signedCommitment.commitment)) = .ok authorities
  members : L.verifyMultiProof (namedSet state relay.signedCommitment.commitment).root relay.proof authorities =
    .ok true
  leaf : verifyMmrLeaf L state relay mmrRoot = .ok ()

theorem verifyMmrUpdateProof_ok (h : verifyMmrUpdateProof L state relay = .ok (state', headsRoot)) :
    (∃ mmrRoot authorities, Accepted L state relay mmrRoot authorities) ∧
      state' = advance state relay.signedCommitment.commitment.blockNumber relay.latestMmrLeaf.nextAuthoritySet ∧
      headsRoot = relay.latestMmrLeaf.extra := by
  unfold verifyMmrUpdateProof at h
  simp only [except_check_ok, revertIf_ok] at h
  obtain ⟨-, -, -, h⟩ := h
  obtain ⟨mmrRoot, hroot, h⟩ := except_bind_ok.mp h
  simp only [except_check_ok, revertIf_ok] at h
  obtain ⟨hfound, h⟩ := h
  obtain ⟨authorities, hrecovered, h⟩ := except_bind_ok.mp h
  obtain ⟨valid, hmembers, h⟩ := except_bind_ok.mp h
  simp only [except_check_ok, revertIf_ok, Bool.not_eq_false] at h
  obtain ⟨rfl, hleaf, hend⟩ := h
  obtain ⟨rfl, rfl⟩ := Prod.mk.inj (Except.ok.inj hend)
  exact ⟨⟨mmrRoot, authorities, hroot, hfound, hrecovered, hmembers, hleaf⟩, rfl, rfl⟩

theorem verifyConsensus_ok (h : verifyConsensus L state proof = .ok (state', intermediate)) :
    verifyMmrUpdateProof L state proof.relay = .ok (state', proof.relay.latestMmrLeaf.extra) ∧
      verifyParachainHeaderProof L proof.relay.latestMmrLeaf.extra proof.parachain = .ok intermediate := by
  obtain ⟨⟨state₁, headsRoot⟩, hrelay, h⟩ := except_bind_ok.mp h
  obtain ⟨intermediate₁, hpara, hend⟩ := except_bind_ok.mp h
  obtain ⟨rfl, rfl⟩ := Prod.mk.inj (Except.ok.inj hend)
  obtain ⟨-, -, rfl⟩ := verifyMmrUpdateProof_ok hrelay
  exact ⟨hrelay, hpara⟩

theorem verifyMmrLeaf_ok {mmrRoot : H256} (h : verifyMmrLeaf L state relay mmrRoot = .ok ()) :
    ∃ count, L.verifyMmr mmrRoot relay.mmrProof [⟨relay.latestMmrLeaf.kIndex, relay.latestMmrLeaf.leafIndex,
      L.keccak256 (Codec.encodeLeaf L relay.latestMmrLeaf.toPartialBeefyMmrLeaf)⟩] count = .ok true := by
  unfold verifyMmrLeaf at h
  obtain ⟨index, -, h⟩ := except_bind_ok.mp h
  obtain ⟨count, -, h⟩ := except_bind_ok.mp h
  obtain ⟨valid, hvalid, hend⟩ := except_bind_ok.mp h
  rw [revertIf_ok, Bool.not_eq_false] at hend
  subst hend
  exact ⟨count, hvalid⟩

theorem verifyParachainHeaderProof_ok {para : ParachainProof}
    (h : verifyParachainHeaderProof L headsRoot para = .ok intermediate) :
    L.verifyMultiProof headsRoot para.proof
      [⟨para.parachain.index, headLeaf L (para.parachain.id.setWidth 32) para.parachain.header⟩] = .ok true ∧
      intermediate.stateMachineId = para.parachain.id := by
  unfold verifyParachainHeaderProof at h
  obtain ⟨header, -, h⟩ := except_bind_ok.mp h
  obtain ⟨-, h⟩ := except_check_ok.mp h
  obtain ⟨valid, hvalid, h⟩ := except_bind_ok.mp h
  simp only [except_check_ok, revertIf_ok, Bool.not_eq_false] at h
  obtain ⟨rfl, h⟩ := h
  obtain ⟨commitment, -, hend⟩ := except_bind_ok.mp h
  obtain rfl := Except.ok.inj hend
  exact ⟨hvalid, rfl⟩

def MultiProofSound (L : Libraries) (Leaf : H256 → Node → Prop) : Prop :=
  ∀ root proof nodes, L.verifyMultiProof root proof nodes = .ok true → ∀ node ∈ nodes, Leaf root node

def SignedBy (L : Libraries) (Leaf : H256 → Node → Prop) (state : BeefyConsensusState)
    (relay : RelayChainProof) (index : U256) : Prop :=
  ∃ vote ∈ relay.signedCommitment.votes, vote.authorityIndex = index ∧ ∃ authority,
    L.recover (commitmentHash L relay.signedCommitment.commitment) vote.signature = .ok authority ∧
    Leaf (namedSet state relay.signedCommitment.commitment).root ⟨index, L.keccak256 authority.bytes⟩

/-- Two thirds of the named set, and one more. -/
def threshold (state : BeefyConsensusState) (relay : RelayChainProof) : Nat :=
  2 * (namedSet state relay.signedCommitment.commitment).len.toNat / 3 + 1

def Quorum (L : Libraries) (Leaf : H256 → Node → Prop) (state : BeefyConsensusState)
    (relay : RelayChainProof) : Prop :=
  ∃ indices : Finset U256, threshold state relay ≤ indices.card ∧ ∀ i ∈ indices, SignedBy L Leaf state relay i

/-- The authorities that are said to vote, each once. -/
def votedIndices (relay : RelayChainProof) : Finset U256 :=
  (relay.signedCommitment.votes.map (·.authorityIndex)).toFinset

variable {Leaf : H256 → Node → Prop}

theorem signedBy_of_mem (hsound : MultiProofSound L Leaf)
    (h : verifyConsensus L state proof = .ok (state', intermediate)) {index : U256}
    (hindex : index ∈ votedIndices proof.relay) : SignedBy L Leaf state proof.relay index := by
  obtain ⟨vote, hvote, rfl⟩ := List.mem_map.mp (List.mem_toFinset.mp hindex)
  obtain ⟨⟨mmrRoot, authorities, haccepted⟩, -, -⟩ := verifyMmrUpdateProof_ok (verifyConsensus_ok h).1
  obtain ⟨authority, hrecover, hmem⟩ := recovered_mem haccepted.recovered hvote
  exact ⟨vote, hvote, rfl, authority, hrecover, hsound _ _ _ haccepted.members _ hmem⟩

theorem Quorum.threshold_le (h : Quorum L Leaf state relay) : threshold state relay ≤ (votedIndices relay).card := by
  obtain ⟨indices, hcard, hsigned⟩ := h
  have hsubset : indices ⊆ votedIndices relay := by
    intro i hi
    obtain ⟨vote, hvote, hindex, -⟩ := hsigned i hi
    exact List.mem_toFinset.mpr (List.mem_map.mpr ⟨vote, hvote, hindex⟩)
  have hle := Finset.card_le_card hsubset
  omega

/-- An accepted proof has a quorum of the named set exactly when its votes name that many different indices. -/
theorem quorum_iff (hsound : MultiProofSound L Leaf)
    (h : verifyConsensus L state proof = .ok (state', intermediate)) :
    Quorum L Leaf state proof.relay ↔ threshold state proof.relay ≤ (votedIndices proof.relay).card :=
  ⟨Quorum.threshold_le, fun hcard => ⟨_, hcard, fun _ hi => signedBy_of_mem hsound h hi⟩⟩

/-- A parachain header with an Aura slot and an ISMP digest. -/
def sampleHeader : Bytes :=
  List.replicate 32 0 ++ [4] ++ List.replicate 64 0 ++ [8] ++ [6, 97, 117, 114, 97, 32, 5, 0, 0, 0, 0, 0, 0, 0]
    ++ [4, 73, 83, 77, 80, 1, 1] ++ List.replicate 32 1 ++ List.replicate 32 2

def sampleAuthorities : H256 :=
  BytesN.ofNat 32 0xc8019cde756d5a7c2b0ba2117075b53611cbc4e3f2c67f4b22cda084039c3273

def sampleAuthority : H160 := BytesN.ofNat 20 0x7e5f4552091a69125d5dfcb7b8c2659029395bdf

def sampleAuthorityHash : H256 :=
  BytesN.ofNat 32 0x3322f33946a3c503c916c8fc29768a547f01fa665e1eb22f9f66cf7e5a262012

def sampleHeads : H256 := BytesN.ofNat 32 0xa2bd360d03eaf7ebec1c6dd7a087fa0d61858813724ea5ac0001f0b0bbb738f0

def sampleRoot : H256 := BytesN.ofNat 32 0x1ee7ad8c6456832548b90b5adc3be3b6376dc910a8214f27c1954db8a72dbf07

def sampleCommitmentHash : H256 :=
  BytesN.ofNat 32 0xe297828317dbf1825c453223700bd342bfa7a422e3af97a75db6baa2d69d258f

def sampleSignature : Bytes :=
  beBytes 33 0xf01d6b9018ab421dd410404cb869072065522bf85734008f105cf385a023a80f05 ++
    beBytes 32 0xfd4700a4f7c73f230768fb0d8b6cdde84923e286de74274d0c662f9cea67651c

def sampleHeaderHash : H256 :=
  BytesN.ofNat 32 0x15b7579cc4791863f0e273ef2ccc9bff8d5f45f4ea02670a892959fa1b92e635

def sampleKeccak (b : Bytes) : H256 :=
  if b = sampleAuthority.bytes then sampleAuthorityHash
  else if b = sampleHeader then sampleHeaderHash
  else if b = leBytes 4 3367 ++ scaleBytes sampleHeader then sampleHeads
  else if b = leBytes 1 0 ++ leBytes 4 0 ++ List.replicate 32 0 ++ leBytes 8 3 ++ leBytes 4 4
      ++ sampleAuthorities.bytes ++ sampleHeads.bytes then sampleRoot
  else if b = compact 1 ++ [109, 104] ++ scaleBytes sampleRoot.bytes ++ leBytes 4 10 ++ leBytes 8 2 then
    sampleCommitmentHash
  else BytesN.zero 32

def sampleLeaves : List (H256 × Node) :=
  [(sampleAuthorities, ⟨0, sampleAuthorityHash⟩), (sampleHeads, ⟨0, sampleHeads⟩)]

def sampleLibraries : Libraries where
  keccak256 := sampleKeccak
  encodeUintCompact n := compact n.toNat
  encodeBytes b := scaleBytes b
  encode32 n := leBytes 4 n.toNat
  encode64 n := leBytes 8 n.toNat
  decodeUintCompact s :=
    match uncompact (s.data.drop s.offset.toNat) with
    | some (n, rest) => .ok (.ofNat 256 n, { s with offset := .ofNat 256 (s.data.length - rest.length) })
    | none => .error (.require "")
  decodeUint256 b := .ok (.ofNat 256 (leValue b))
  toBytes32 b := if h : (b.take 32).length = 32 then .ok ⟨b.take 32, h⟩ else .error (.require "")
  toBytes4 b offset :=
    if h : ((b.drop offset.toNat).take 4).length = 4 then .ok ⟨(b.drop offset.toNat).take 4, h⟩
    else .error (.require "")
  readBytes len := Codec.read len
  readByte := do
    match ← Codec.read 1 with
    | [b] => pure b
    | _ => StateT.lift (.error (.require ""))
  recover hash signature :=
    if hash = sampleCommitmentHash ∧ signature = sampleSignature then .ok sampleAuthority
    else .error (.require "ECDSA: invalid signature")
  verifyMultiProof root _ nodes := .ok (nodes.all fun node => decide ((root, node) ∈ sampleLeaves))
  verifyMmr root _ leaves count := .ok (decide (count = 1) && leaves.all fun leaf => decide (leaf.hash = root))

def sampleState : BeefyConsensusState where
  latestHeight := 0
  beefyActivationBlock := 0
  currentAuthoritySet := ⟨1, 1, sampleAuthorityHash⟩
  nextAuthoritySet := ⟨2, 4, sampleAuthorities⟩

def sampleProof (blockNumber : U256) : BeefyConsensusProof where
  relay :=
    { signedCommitment :=
        { commitment := ⟨[⟨mmrRootPayloadId, sampleRoot.bytes, by decide⟩], blockNumber, 2, by decide⟩
          votes := [⟨sampleSignature, 0⟩] }
      latestMmrLeaf := ⟨⟨0, 0, BytesN.zero 32, ⟨3, 4, sampleAuthorities⟩, sampleHeads⟩, 0, 0⟩
      mmrProof := []
      proof := [] }
  parachain := ⟨⟨0, 3367, sampleHeader⟩, []⟩

def sampleStateCommitment : StateCommitment where
  timestamp := 60000
  overlayRoot := ⟨List.replicate 32 1, rfl⟩
  stateRoot := ⟨List.replicate 32 2, rfl⟩

theorem multiProofSound_sample : MultiProofSound sampleLibraries fun root node => (root, node) ∈ sampleLeaves := by
  intro root _ nodes h node hnode
  have hall : (nodes.all fun node => decide ((root, node) ∈ sampleLeaves)) = true := Except.ok.inj h
  exact of_decide_eq_true (List.all_eq_true.mp hall node hnode)

theorem verifyConsensus_sample :
    verifyConsensus sampleLibraries sampleState (sampleProof 10) =
      .ok (⟨10, 0, ⟨2, 4, sampleAuthorities⟩, ⟨3, 4, sampleAuthorities⟩⟩, ⟨3367, 1, sampleStateCommitment⟩) := by
  decide +kernel

/-- One vote is enough for the current set, and is accepted for the next one, which has four members. -/
theorem one_vote_of_four_accepted :
    MultiProofSound sampleLibraries (fun root node => (root, node) ∈ sampleLeaves) ∧
      (∃ out, verifyConsensus sampleLibraries sampleState (sampleProof 10) = .ok out) ∧
      ¬ Quorum sampleLibraries (fun root node => (root, node) ∈ sampleLeaves) sampleState (sampleProof 10).relay := by
  refine ⟨multiProofSound_sample, ⟨_, verifyConsensus_sample⟩, fun hquorum => ?_⟩
  have hle := hquorum.threshold_le
  revert hle
  decide

theorem quorum_iff_sample :
    Quorum sampleLibraries (fun root node => (root, node) ∈ sampleLeaves) sampleState (sampleProof 10).relay ↔
      threshold sampleState (sampleProof 10).relay ≤ (votedIndices (sampleProof 10).relay).card :=
  quorum_iff multiProofSound_sample verifyConsensus_sample

end Hyperbridge.Beefy

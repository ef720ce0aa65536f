import Hyperbridge.Lib.Scale
import Hyperbridge.Lib.Solidity

/-!
# BEEFY types and their encodings on EVM chains

The structs of `Types.sol` and `Header.sol`, the encoder and header decoder of `Codec.sol`, and
`HeaderImpl.stateCommitment`. Fields are 256-bit words, which the encoder narrows to the widths of SCALE.
-/

namespace Hyperbridge.Beefy

open Lib

structure Node where
  index : U256
  node : H256
  deriving DecidableEq

structure MmrLeaf where
  kIndex : U256
  leafIndex : U256
  hash : H256
  deriving DecidableEq

/-- The length of a byte array is a word. -/
structure Payload where
  id : BytesN 2
  data : Bytes
  fits : data.length < 2 ^ 256
  deriving DecidableEq

structure Commitment where
  payload : List Payload
  blockNumber : U256
  validatorSetId : U256
  fits : payload.length < 2 ^ 256
  deriving DecidableEq

structure AuthoritySetCommitment where
  id : U256
  len : U256
  root : H256
  deriving DecidableEq

structure PartialBeefyMmrLeaf where
  version : U256
  parentNumber : U256
  parentHash : H256
  nextAuthoritySet : AuthoritySetCommitment
  extra : H256
  deriving DecidableEq

structure BeefyMmrLeaf extends PartialBeefyMmrLeaf where
  kIndex : U256
  leafIndex : U256
  deriving DecidableEq

structure BeefyConsensusState where
  latestHeight : U256
  beefyActivationBlock : U256
  currentAuthoritySet : AuthoritySetCommitment
  nextAuthoritySet : AuthoritySetCommitment
  deriving DecidableEq

structure StateCommitment where
  timestamp : U256
  overlayRoot : H256
  stateRoot : H256
  deriving DecidableEq

structure IntermediateState where
  stateMachineId : U256
  height : U256
  commitment : StateCommitment
  deriving DecidableEq

structure DigestItem where
  consensusId : BytesN 4
  data : Bytes
  deriving DecidableEq

structure Digest where
  isPreRuntime : Bool := false
  preruntime : DigestItem := ⟨BytesN.zero 4, []⟩
  isConsensus : Bool := false
  consensus : DigestItem := ⟨BytesN.zero 4, []⟩
  isSeal : Bool := false
  sealItem : DigestItem := ⟨BytesN.zero 4, []⟩
  isOther : Bool := false
  other : Bytes := []
  isRuntimeEnvironmentUpdated : Bool := false
  deriving DecidableEq

structure Header where
  parentHash : H256
  number : U256
  stateRoot : H256
  extrinsicRoot : H256
  digests : List Digest
  deriving DecidableEq

structure ByteSlice where
  data : Bytes
  offset : U256
  deriving DecidableEq

/-- Code that reads from a `ByteSlice`. -/
abbrev Reader := StateT ByteSlice Call

structure Libraries where
  keccak256 : Bytes → H256
  encodeUintCompact : U256 → Bytes
  encodeBytes : Bytes → Bytes
  encode32 : BitVec 32 → Bytes
  encode64 : BitVec 64 → Bytes
  decodeUintCompact : Reader U256
  decodeUint256 : Bytes → Call U256
  toBytes32 : Bytes → Call H256
  toBytes4 : Bytes → U256 → Call (BytesN 4)
  readBytes : U256 → Reader Bytes
  readByte : Reader UInt8
  recover : H256 → Bytes → Call H160
  verifyMultiProof : H256 → List (List Node) → List Node → Call Bool
  verifyMmr : H256 → List H256 → List MmrLeaf → U256 → Call Bool

/-- The encoders of `ScaleCodec` are those of SCALE. -/
structure Libraries.EncodeScale (L : Libraries) : Prop where
  encodeUintCompact : ∀ n, L.encodeUintCompact n = compact n.toNat
  encodeBytes : ∀ b, L.encodeBytes b = scaleBytes b
  encode32 : ∀ n, L.encode32 n = leBytes 4 n.toNat
  encode64 : ∀ n, L.encode64 n = leBytes 8 n.toNat

variable (L : Libraries)

namespace Codec

def accumulate (_accumulator : Bytes) (item : Payload) : Bytes := item.id.bytes ++ L.encodeBytes item.data

/-- `Codec.Encode(Commitment)`. -/
def encodeCommitment (c : Commitment) : Bytes :=
  let accumulator := c.payload.foldl (accumulate L) []
  let payload := L.encodeUintCompact (.ofNat 256 c.payload.length) ++ accumulator
  let rest := L.encode32 (c.blockNumber.setWidth 32) ++ L.encode64 (c.validatorSetId.setWidth 64)
  payload ++ rest

/-- `Codec.Encode(PartialBeefyMmrLeaf)`. -/
def encodeLeaf (leaf : PartialBeefyMmrLeaf) : Bytes :=
  let first := UInt8.ofNat leaf.version.toNat :: L.encode32 (leaf.parentNumber.setWidth 32)
  let second := leaf.parentHash.bytes ++ L.encode64 (leaf.nextAuthoritySet.id.setWidth 64)
  let third := L.encode32 (leaf.nextAuthoritySet.len.setWidth 32) ++ leaf.nextAuthoritySet.root.bytes
  (first ++ second) ++ (third ++ leaf.extra.bytes)

/-- `Bytes.read`. -/
def read (len : U256) : Reader Bytes := fun s => do
  let stop ← U256.add s.offset len
  revertIf (s.data.length < stop.toNat) (.require "")
  if len = 0 then pure ([], s)
  else pure ((s.data.drop s.offset.toNat).take len.toNat, { s with offset := stop })

def decodeDigestItem : Reader DigestItem := do
  let id ← L.toBytes4 (← read 4) 0
  let length ← L.decodeUintCompact
  let data ← L.readBytes length
  pure ⟨id, data⟩

def decodeDigest (kind : UInt8) : Reader Digest :=
  if kind = 0 then pure { isOther := true }
  else if kind = 4 then do pure { isConsensus := true, consensus := ← decodeDigestItem L }
  else if kind = 5 then do pure { isSeal := true, sealItem := ← decodeDigestItem L }
  else if kind = 6 then do pure { isPreRuntime := true, preruntime := ← decodeDigestItem L }
  else if kind = 8 then pure { isRuntimeEnvironmentUpdated := true }
  else pure {}

/-- The loop over the digest items. -/
def decodeDigests : Nat → Reader (List Digest)
  | 0 => pure []
  | n + 1 => do
    let digest ← decodeDigest L (← L.readByte)
    let digests ← decodeDigests n
    pure (digest :: digests)

def allocate (length : U256) : Call Unit := revertIf (2 ^ 64 ≤ length.toNat) (.panic 0x41)

def readHeader : Reader Header := do
  let parentHash ← L.toBytes32 (← L.readBytes 32)
  let blockNumber ← L.decodeUintCompact
  let stateRoot ← L.toBytes32 (← L.readBytes 32)
  let extrinsicsRoot ← L.toBytes32 (← L.readBytes 32)
  let length ← L.decodeUintCompact
  allocate length
  let digests ← decodeDigests L length.toNat
  pure ⟨parentHash, blockNumber, stateRoot, extrinsicsRoot, digests⟩

/-- `Codec.DecodeHeader`; what follows the header is ignored. -/
def decodeHeader (encoded : Bytes) : Call Header := do
  let (header, _) ← (readHeader L).run ⟨encoded, 0⟩
  pure header

end Codec

namespace HeaderImpl

def ismpConsensusId : BytesN 4 := ⟨[73, 83, 77, 80], rfl⟩

def auraConsensusId : BytesN 4 := ⟨[97, 117, 114, 97], rfl⟩

def slotDuration : U256 := 12000

/-- What the loop over the digests has found. -/
structure Found where
  mmrRoot : H256 := BytesN.zero 32
  childTrieRoot : H256 := BytesN.zero 32
  timestamp : U256 := 0

def readIsmp (digest : Digest) (found : Found) : Call Found :=
  if digest.isConsensus ∧ digest.consensus.consensusId = ismpConsensusId then do
    revertIf (digest.consensus.data.length < 32) (.require "")
    let mmrRoot ← L.toBytes32 (digest.consensus.data.take 32)
    let childTrieRoot ← L.toBytes32 (digest.consensus.data.drop 32)
    pure { found with mmrRoot := mmrRoot, childTrieRoot := childTrieRoot }
  else pure found

def readAura (digest : Digest) (found : Found) : Call Found :=
  if digest.isPreRuntime ∧ digest.preruntime.consensusId = auraConsensusId then do
    let slot ← L.decodeUint256 digest.preruntime.data
    let timestamp ← U256.mul slot slotDuration
    pure { found with timestamp := timestamp }
  else pure found

def scan (found : Found) (digest : Digest) : Call Found := do
  let found ← readIsmp L digest found
  readAura L digest found

/-- `HeaderImpl.stateCommitment`. -/
def stateCommitment (header : Header) : Call StateCommitment := do
  let found ← header.digests.foldlM (scan L) {}
  revertIf (found.timestamp = 0) (.error "TimestampNotFound")
  revertIf (found.childTrieRoot = BytesN.zero 32) (.error "ChildTrieRootNotFound")
  revertIf (found.mmrRoot = BytesN.zero 32) (.error "MmrRootHashNotFound")
  pure ⟨found.timestamp, found.mmrRoot, found.childTrieRoot⟩

variable {L}

theorem readIsmp_timestamp {digest : Digest} {found found' : Found} (h : readIsmp L digest found = .ok found') :
    found'.timestamp = found.timestamp := by
  unfold readIsmp at h
  split at h
  · obtain ⟨-, h⟩ := except_check_ok.mp h
    obtain ⟨mmrRoot, -, h⟩ := except_bind_ok.mp h
    obtain ⟨childTrieRoot, -, h⟩ := except_bind_ok.mp h
    rw [← Except.ok.inj h]
  · rw [Except.ok.inj h]

theorem readAura_timestamp {digest : Digest} {found found' : Found} {slot : Nat}
    (hslot : digest.isPreRuntime = true → digest.preruntime.consensusId = auraConsensusId →
      ∀ s, L.decodeUint256 digest.preruntime.data = .ok s → s.toNat = slot)
    (h : readAura L digest found = .ok found') :
    found'.timestamp = found.timestamp ∨ found'.timestamp.toNat = slot * 12000 := by
  unfold readAura at h
  split at h
  · rename_i haura
    obtain ⟨s, hs, h⟩ := except_bind_ok.mp h
    obtain ⟨timestamp, hmul, h⟩ := except_bind_ok.mp h
    rw [U256.mul_ok, hslot haura.1 haura.2 s hs] at hmul
    rw [← Except.ok.inj h]
    exact Or.inr hmul
  · rw [Except.ok.inj h]
    exact Or.inl rfl

theorem stateCommitment_timestamp {header : Header} {state : StateCommitment} {slot : Nat}
    (hslot : ∀ digest ∈ header.digests, digest.isPreRuntime = true → digest.preruntime.consensusId = auraConsensusId →
      ∀ s, L.decodeUint256 digest.preruntime.data = .ok s → s.toNat = slot)
    (h : stateCommitment L header = .ok state) : state.timestamp.toNat = slot * 12000 := by
  obtain ⟨found, hfound, h⟩ := except_bind_ok.mp h
  simp only [except_check_ok, revertIf_ok] at h
  obtain ⟨htimestamp, -, -, hstate⟩ := h
  -- so far nothing was found, or the slot
  have hread : found.timestamp = 0 ∨ found.timestamp.toNat = slot * 12000 := by
    refine except_foldlM_ok (fun found => found.timestamp = 0 ∨ found.timestamp.toNat = slot * 12000)
      (fun before digest hdigest after hbefore hscan => ?_) (Or.inl rfl) hfound
    obtain ⟨middle, hismp, haura⟩ := except_bind_ok.mp hscan
    rcases readAura_timestamp (hslot digest hdigest) haura with hsame | hset
    · rw [hsame, readIsmp_timestamp hismp]
      exact hbefore
    · exact Or.inr hset
  rw [← Except.ok.inj hstate]
  exact hread.resolve_left htimestamp

end HeaderImpl

end Hyperbridge.Beefy

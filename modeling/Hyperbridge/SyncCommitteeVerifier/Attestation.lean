import Hyperbridge.Lib.Bytes
import Hyperbridge.Lib.Exec
import Mathlib.Data.Fintype.Pi

/-!
# The sync committee verifier

`verify_sync_committee_attestation` takes a trusted state with the sync committees of its period and of the next one,
and an update: a signed header, the header finalized in it, its execution payload, and perhaps the next sync committee.
It returns the state to trust from then on. The BLS and SSZ libraries are parameters. Slots, epochs and periods are
64-bit words.
-/

namespace Hyperbridge.SyncCommitteeVerifier

open Lib

abbrev Root := BytesN 32

abbrev Version := BytesN 4

abbrev Domain := BytesN 32

abbrev BlsPublicKey := BytesN 48

abbrev BlsSignature := BytesN 96

def syncCommitteeSize : Nat := 512

def finalizedRootIndex : Nat := 52
def executionPayloadIndex : Nat := 56
def nextSyncCommitteeIndex : Nat := 55

def finalizedRootIndexLog2 : Nat := 5
def executionPayloadIndexLog2 : Nat := 5
def nextSyncCommitteeIndexLog2 : Nat := 5

/-- Two leaves on one level of a tree. -/
def Apart (i j : Nat) : Prop := i.log2 = j.log2 ∧ i ≠ j

instance (i j : Nat) : Decidable (Apart i j) := inferInstanceAs (Decidable (_ ∧ _))

structure Config where
  slotsPerEpoch : UInt64
  genesisValidatorsRoot : Root
  genesisForkVersion : Version
  altairForkVersion : Version
  bellatrixForkVersion : Version
  capellaForkVersion : Version
  denebForkVersion : Version
  altairForkEpoch : UInt64
  bellatrixForkEpoch : UInt64
  capellaForkEpoch : UInt64
  denebForkEpoch : UInt64
  epochsPerSyncCommitteePeriod : UInt64
  executionPayloadStateRootIndex : Nat
  executionPayloadBlockNumberIndex : Nat
  executionPayloadTimestampIndex : Nat
  slotsPerEpoch_ne_zero : slotsPerEpoch ≠ 0
  epochsPerSyncCommitteePeriod_ne_zero : epochsPerSyncCommitteePeriod ≠ 0
  executionPayload_apart : List.Pairwise Apart
    [executionPayloadStateRootIndex, executionPayloadBlockNumberIndex, executionPayloadTimestampIndex]

theorem payload_indices_apart : List.Pairwise Apart [34, 38, 41] := by decide

theorem mainnet_slots : (32 : UInt64) ≠ 0 := by decide

theorem mainnet_epochs : (256 : UInt64) ≠ 0 := by decide

/-- The parameters of the main network. -/
def mainnet : Config where
  slotsPerEpoch := 32
  genesisValidatorsRoot := BytesN.ofNat 32 0x4b363db94e286120d76eb905340fdd4e54bfe9f06bf33ff6cf5ad27f511bfe95
  genesisForkVersion := BytesN.ofNat 4 0x00000000
  altairForkVersion := BytesN.ofNat 4 0x01000000
  bellatrixForkVersion := BytesN.ofNat 4 0x02000000
  capellaForkVersion := BytesN.ofNat 4 0x03000000
  denebForkVersion := BytesN.ofNat 4 0x04000000
  altairForkEpoch := 74240
  bellatrixForkEpoch := 144896
  capellaForkEpoch := 194048
  denebForkEpoch := 269568
  epochsPerSyncCommitteePeriod := 256
  executionPayloadStateRootIndex := 34
  executionPayloadBlockNumberIndex := 38
  executionPayloadTimestampIndex := 41
  slotsPerEpoch_ne_zero := mainnet_slots
  epochsPerSyncCommitteePeriod_ne_zero := mainnet_epochs
  executionPayload_apart := payload_indices_apart

structure BeaconBlockHeader where
  slot : UInt64
  proposerIndex : UInt64
  parentRoot : Root
  stateRoot : Root
  bodyRoot : Root
  deriving DecidableEq

structure Checkpoint where
  epoch : UInt64
  root : Root
  deriving DecidableEq

structure SyncCommittee where
  publicKeys : Fin syncCommitteeSize → BlsPublicKey
  aggregatePublicKey : BlsPublicKey
  deriving DecidableEq

structure SyncAggregate where
  syncCommitteeBits : Fin syncCommitteeSize → Bool
  syncCommitteeSignature : BlsSignature
  deriving DecidableEq

structure ExecutionPayloadProof where
  stateRoot : Root
  blockNumber : UInt64
  multiProof : List Root
  executionPayloadBranch : List Root
  timestamp : UInt64
  deriving DecidableEq

structure SyncCommitteeUpdate where
  nextSyncCommittee : SyncCommittee
  nextSyncCommitteeBranch : List Root
  deriving DecidableEq

/-- `VerifierState`. -/
structure VerifierState where
  finalizedHeader : BeaconBlockHeader
  latestFinalizedEpoch : UInt64
  currentSyncCommittee : SyncCommittee
  nextSyncCommittee : SyncCommittee
  statePeriod : UInt64
  deriving DecidableEq

structure FinalityProof where
  epoch : UInt64
  finalityBranch : List Root
  deriving DecidableEq

structure VerifierStateUpdate where
  attestedHeader : BeaconBlockHeader
  syncCommitteeUpdate : Option SyncCommitteeUpdate
  finalizedHeader : BeaconBlockHeader
  executionPayload : ExecutionPayloadProof
  finalityProof : FinalityProof
  syncAggregate : SyncAggregate
  signatureSlot : UInt64
  deriving DecidableEq

inductive Error where
  | syncCommitteeParticipantsTooLow
  | invalidUpdate (text : String)
  | domainError
  | invalidMerkleBranch (text : String)
  | invalidRoot (text : String)
  | merkleizationError (text : String)
  | signatureVerification
  deriving DecidableEq

/-- Points in compressed form; errors have their debug text. -/
structure Bls (G1 G2 GT : Type) where
  pubkeyToPoint : BlsPublicKey → Except String G1
  signatureToPoint : BlsSignature → Except String G2
  signatureSubgroupCheck : G2 → Bool
  hashToPoint : Bytes → G2
  pairing : G2 → G1 → GT
  generator : G1

structure Ssz where
  headerRoot : BeaconBlockHeader → Option Root
  checkpointRoot : Checkpoint → Option Root
  uintRoot : UInt64 → Option Root
  syncCommitteeRoot : SyncCommittee → Option Root
  forkDataRoot : Version → Root → Option Root
  signingDataRoot : Root → Domain → Option Root
  isValidMerkleBranch : Root → List Root → Nat → Nat → Root → Bool
  calculateMultiMerkleRoot : List Root → List Root → List Nat → Root

section Util

variable (C : Config) (Z : Ssz)

def shouldHaveSyncCommitteeUpdate (statePeriod signaturePeriod : UInt64) : Bool := signaturePeriod = statePeriod + 1

def computeSyncCommitteePeriod (epoch : UInt64) : UInt64 := epoch / C.epochsPerSyncCommitteePeriod

def computeEpochAtSlot (slot : UInt64) : UInt64 := slot / C.slotsPerEpoch

def computeSyncCommitteePeriodAtSlot (slot : UInt64) : UInt64 :=
  computeSyncCommitteePeriod C (computeEpochAtSlot C slot)

/-- The latest fork by then. -/
def computeForkVersion (epoch : UInt64) : Version :=
  if C.denebForkEpoch ≤ epoch then C.denebForkVersion
  else if C.capellaForkEpoch ≤ epoch then C.capellaForkVersion
  else if C.bellatrixForkEpoch ≤ epoch then C.bellatrixForkVersion
  else if C.altairForkEpoch ≤ epoch then C.altairForkVersion
  else C.genesisForkVersion

def domainSyncCommittee : BytesN 4 := ⟨[7, 0, 0, 0], rfl⟩

variable (domainType : BytesN 4)

theorem length_domain (forkDataRoot : Root) :
    (domainType.bytes ++ forkDataRoot.bytes.take 28).length = 32 := by
  rw [List.length_append, List.length_take, domainType.length_bytes, forkDataRoot.length_bytes]
  rfl

/-- The type, and the front of the root. -/
def makeDomain (forkDataRoot : Root) : Domain :=
  ⟨domainType.bytes ++ forkDataRoot.bytes.take 28, length_domain domainType forkDataRoot⟩

def computeDomain (forkVersion : Option Version) (genesisValidatorsRoot : Option Root)
    (genesisForkVersion : Version) : Option Domain := do
  let forkDataRoot ← Z.forkDataRoot (forkVersion.getD genesisForkVersion) (genesisValidatorsRoot.getD (BytesN.zero 32))
  some (makeDomain domainType forkDataRoot)

def computeSigningRoot (header : BeaconBlockHeader) (domain : Domain) : Option Root := do
  let objectRoot ← Z.headerRoot header
  Z.signingDataRoot objectRoot domain

end Util

section Crypto

variable {G1 G2 GT : Type} (B : Bls G1 G2 GT)

/-- `subtract_points_from_aggregate`. -/
def subtractPointsFromAggregate [Sub G1] (aggregate : BlsPublicKey) (points : List BlsPublicKey) :
    Except String G1 := do
  let aggregate ← B.pubkeyToPoint aggregate
  let points ← points.mapM B.pubkeyToPoint
  pure (points.foldl (· - ·) aggregate)

def verifyAggregateSignature [Sub G1] [DecidableEq GT] (aggregate : BlsPublicKey) (nonParticipants : List BlsPublicKey)
    (msg : Bytes) (signature : BlsSignature) : Except String Unit := do
  let aggregateKeyPoint ← subtractPointsFromAggregate B aggregate nonParticipants
  let signature ← B.signatureToPoint signature
  errIf (B.signatureSubgroupCheck signature = false) "Signature not in subgroup"
  let q := B.hashToPoint msg
  if B.pairing q aggregateKeyPoint = B.pairing signature B.generator then .ok ()
  else .error "Aggregate signature verification failed"

end Crypto

def SyncAggregate.participants (a : SyncAggregate) : Nat := (List.ofFn a.syncCommitteeBits).count true

/-- The keys of those who did not sign. -/
def nonParticipantPubkeys (bits : Fin syncCommitteeSize → Bool) (keys : Fin syncCommitteeSize → BlsPublicKey) :
    List BlsPublicKey :=
  ((List.ofFn bits).zip (List.ofFn keys)).filterMap fun bk => if !bk.1 then some bk.2 else none

section Verify

variable {G1 G2 GT : Type} (B : Bls G1 G2 GT) (Z : Ssz) (C : Config)

/-- Both branches have to be wrong. -/
def wrongBranches (update : VerifierStateUpdate) : Bool :=
  update.finalityProof.finalityBranch.length ≠ finalizedRootIndexLog2 &&
    match update.syncCommitteeUpdate with
    | some committeeUpdate => committeeUpdate.nextSyncCommitteeBranch.length ≠ nextSyncCommitteeIndexLog2
    | none => false

variable (trusted : VerifierState) (update : VerifierStateUpdate)

/-- The checks before any hash. -/
def checkUpdate : Except Error Unit := do
  errIf (wrongBranches update = true) (.invalidUpdate "Finality branch is incorrect")
  errIf (update.syncAggregate.participants < 2 * syncCommitteeSize / 3 + 1) .syncCommitteeParticipantsTooLow
  errIf (¬ (update.attestedHeader.slot < update.signatureSlot ∧
      update.finalizedHeader.slot < update.attestedHeader.slot))
    (.invalidUpdate "relationship between slots does not meet the requirements")
  let signaturePeriod := computeSyncCommitteePeriodAtSlot C update.signatureSlot
  errIf (¬ (trusted.statePeriod ≤ signaturePeriod ∧ signaturePeriod ≤ trusted.statePeriod + 1))
    (.invalidUpdate "State period does not contain signature period")
  errIf (update.attestedHeader.slot ≤ trusted.finalizedHeader.slot ∨
      update.finalityProof.epoch ≤ trusted.latestFinalizedEpoch)
    (.invalidUpdate "Update is expired")

/-- The committee of the period of the signature. -/
def signingCommittee (signatureSlot : UInt64) : SyncCommittee :=
  if computeSyncCommitteePeriodAtSlot C signatureSlot = trusted.statePeriod then trusted.currentSyncCommittee
  else trusted.nextSyncCommittee

def signingRoot (header : BeaconBlockHeader) (signatureSlot : UInt64) : Except Error Root := do
  let forkVersion := computeForkVersion C (computeEpochAtSlot C signatureSlot)
  let domain ← okOr (computeDomain Z domainSyncCommittee (some forkVersion) (some C.genesisValidatorsRoot)
    C.genesisForkVersion) (.invalidUpdate "Failed to compute domain")
  okOr (computeSigningRoot Z header domain) (.invalidRoot "Failed to compute signing root")

def checkSignature [Sub G1] [DecidableEq GT] :
    Except Error Unit := do
  let committee := signingCommittee C trusted update.signatureSlot
  let root ← signingRoot Z C update.attestedHeader update.signatureSlot
  (verifyAggregateSignature B committee.aggregatePublicKey
    (nonParticipantPubkeys update.syncAggregate.syncCommitteeBits committee.publicKeys) root.bytes
    update.syncAggregate.syncCommitteeSignature).mapError fun _ => .signatureVerification

def checkFinality : Except Error Unit := do
  let headerRoot ← okOr (Z.headerRoot update.finalizedHeader) (.merkleizationError "Error hashing finalized header")
  let checkpointRoot ← okOr (Z.checkpointRoot ⟨update.finalityProof.epoch, headerRoot⟩)
    (.merkleizationError "Failed to hash finality checkpoint")
  errIf (Z.isValidMerkleBranch checkpointRoot update.finalityProof.finalityBranch finalizedRootIndexLog2
    finalizedRootIndex update.attestedHeader.stateRoot = false) (.invalidMerkleBranch "Finality branch")

def checkExecutionPayload : Except Error Unit := do
  let payload := update.executionPayload
  let blockNumberRoot ← okOr (Z.uintRoot payload.blockNumber) (.merkleizationError "Failed to hash execution payload")
  let timestampRoot ← okOr (Z.uintRoot payload.timestamp) (.merkleizationError "Failed to hash timestamp")
  let payloadRoot := Z.calculateMultiMerkleRoot [payload.stateRoot, blockNumberRoot, timestampRoot] payload.multiProof
    [C.executionPayloadStateRootIndex, C.executionPayloadBlockNumberIndex, C.executionPayloadTimestampIndex]
  errIf (Z.isValidMerkleBranch payloadRoot payload.executionPayloadBranch executionPayloadIndexLog2
    executionPayloadIndex update.finalizedHeader.stateRoot = false) (.invalidMerkleBranch "Execution payload branch")

def checkNextSyncCommittee : Except Error Unit :=
  match update.syncCommitteeUpdate with
  | none => .ok ()
  | some committeeUpdate => do
      let syncRoot ← okOr (Z.syncCommitteeRoot committeeUpdate.nextSyncCommittee)
        (.merkleizationError "Failed to hash next sync committee")
      errIf (Z.isValidMerkleBranch syncRoot committeeUpdate.nextSyncCommitteeBranch nextSyncCommitteeIndexLog2
        nextSyncCommitteeIndex update.attestedHeader.stateRoot = false)
          (.invalidMerkleBranch "Next sync committee branch")

/-- The committees move on with the period of the signature. -/
def nextState : Except Error VerifierState :=
  if shouldHaveSyncCommitteeUpdate trusted.statePeriod (computeSyncCommitteePeriodAtSlot C update.signatureSlot) then
    match update.syncCommitteeUpdate with
    | some committeeUpdate => .ok
        { finalizedHeader := update.finalizedHeader
          latestFinalizedEpoch := update.finalityProof.epoch
          currentSyncCommittee := trusted.nextSyncCommittee
          nextSyncCommittee := committeeUpdate.nextSyncCommittee
          statePeriod := trusted.statePeriod + 1 }
    | none => .error (.invalidUpdate "Expected sync committee update to be present")
  else .ok
    { trusted with
      finalizedHeader := update.finalizedHeader
      latestFinalizedEpoch := update.finalityProof.epoch }

/-- `verify_sync_committee_attestation`. -/
def verifySyncCommitteeAttestation [Sub G1] [DecidableEq GT] :
    Except Error VerifierState := do
  checkUpdate C trusted update
  checkSignature B Z C trusted update
  checkFinality Z update
  checkExecutionPayload Z C update
  checkNextSyncCommittee Z update
  nextState C trusted update

end Verify

end Hyperbridge.SyncCommitteeVerifier

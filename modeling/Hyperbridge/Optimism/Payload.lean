import Hyperbridge.Ismp.EvmStateMachine
import Mathlib.Data.BitVec

/-!
# Outputs of an Optimism chain

`verify_optimism_payload` takes a state of the L2 chain from the `l2Outputs` array on L1. An element takes two words:
the output root, a hash over the state root, and the timestamp and block number packed into one. The prover sends the
preimage of the root, a block number and a timestamp; the latter two are rejected only if *both* differ from the stored
ones.

The position is computed with `index * 2` in 64 bits, which wraps: from `2 ^ 63` on an index reads the element `2 ^ 63`
before it.
-/

namespace Hyperbridge.Optimism

open Lib Ismp

def l2OutputsSlot : UInt64 := 3

structure OptimismPayloadProof where
  stateRoot : H256
  withdrawalStorageRoot : H256
  l2BlockHash : H256
  version : H256
  l2OracleProof : List Bytes
  outputRootProof : List Bytes
  multiProof : List Bytes
  outputRootIndex : UInt64
  blockNumber : UInt64
  timestamp : UInt64

structure IntermediateState where
  height : StateMachineHeight
  commitment : StateCommitment
  deriving DecidableEq

structure Libraries extends EvmCommon.Libraries where
  decodeU256 : Bytes → Option (BitVec 256)

variable (L : Libraries)

def deriveArrayItemKey (slot index offset : UInt64) : Except Error Bytes :=
  let arrayPos := beValue (L.keccak256 (beBytes 32 slot.toNat)).bytes
  let itemPos := arrayPos + (index * 2).toNat + offset.toNat
  if itemPos < 2 ^ 256 then .ok (L.keccak256 (beBytes 32 itemPos)).bytes
  else .error (.custom "arithmetic operation overflow")

def getValueFromProof (key : Bytes) (root : H256) (proof : List Bytes) : Except Error (Option Bytes) :=
  (L.trieGet proof root key).mapError fun e => .custom ("Error reading proof db " ++ e)

/-- A storage word of the oracle. -/
def wordFromProof (text : String) (key : Bytes) (root : H256) (proof : List Bytes) :
    Except Error (BitVec 256) := do
  let found ← getValueFromProof L key root proof
  let value ← okOr found (.membershipProofVerificationFailed "Value not found in proof")
  okOr (L.decodeU256 value) (.custom (text ++ debugBytes value))

def outputPreimage (version stateRoot withdrawalStorageRoot l2BlockHash : H256) : Bytes :=
  version.bytes ++ stateRoot.bytes ++ withdrawalStorageRoot.bytes ++ l2BlockHash.bytes

def calculateOutputRoot (version stateRoot withdrawalStorageRoot l2BlockHash : H256) : H256 :=
  L.keccak256 (outputPreimage version stateRoot withdrawalStorageRoot l2BlockHash)

/-- `verify_optimism_payload`. -/
def verifyOptimismPayload (payload : OptimismPayloadProof) (root : H256) (l2OracleAddress : H160)
    (consensusStateId : ConsensusStateId) : Except Error IntermediateState := do
  let account ← EvmCommon.getContractAccount L.toLibraries payload.l2OracleProof l2OracleAddress.bytes root
  let outputRoot := calculateOutputRoot L payload.version payload.stateRoot payload.withdrawalStorageRoot
    payload.l2BlockHash
  let outputRootKey ← deriveArrayItemKey L l2OutputsSlot payload.outputRootIndex 0
  let proofValue ← wordFromProof L "Error decoding output root from " outputRootKey account.storageRoot
    payload.outputRootProof
  errIf (beBytes 32 proofValue.toNat ≠ outputRoot.bytes)
    (.membershipProofVerificationFailed "Invalid optimism output root proof")
  let timestampBlockNumberKey ← deriveArrayItemKey L l2OutputsSlot payload.outputRootIndex 1
  let blockAndTimestamp ← wordFromProof L "Error decoding block and timestamp from" timestampBlockNumberKey
    account.storageRoot payload.multiProof
  let timestamp := UInt64.ofNat (blockAndTimestamp.toNat % 2 ^ 128)
  let blockNumber := UInt64.ofNat (blockAndTimestamp.toNat / 2 ^ 128)
  errIf (payload.timestamp ≠ timestamp ∧ payload.blockNumber ≠ blockNumber)
    (.membershipProofVerificationFailed "Invalid optimism block and timestamp proof")
  pure
    { height := ⟨⟨.evm 0, consensusStateId⟩, payload.blockNumber⟩
      commitment := ⟨payload.timestamp, none, payload.stateRoot⟩ }

structure OutputProposal where
  version : H256
  stateRoot : H256
  withdrawalStorageRoot : H256
  l2BlockHash : H256
  timestamp : BitVec 128
  l2BlockNumber : BitVec 128

variable (o : OutputProposal)

def OutputProposal.preimage : Bytes :=
  outputPreimage o.version o.stateRoot o.withdrawalStorageRoot o.l2BlockHash

/-- Two `uint128` in one word. -/
def OutputProposal.packed : BitVec 256 := o.l2BlockNumber ++ o.timestamp

def OutputProposal.timestampU64 : UInt64 := UInt64.ofNat o.timestamp.toNat

def OutputProposal.blockNumberU64 : UInt64 := UInt64.ofNat o.l2BlockNumber.toNat

def valueAt (content : H256 → Bytes → Option Bytes) (storageRoot : H256) (pos : Nat) : Option Bytes :=
  content storageRoot (L.keccak256 (beBytes 32 pos)).bytes

/-- A word that is not stored is zero. -/
def wordAt (content : H256 → Bytes → Option Bytes) (storageRoot : H256) (pos : Nat) : Option (BitVec 256) :=
  match valueAt L content storageRoot pos with
  | none => some 0
  | some value => L.decodeU256 value

/-- Where the element starts. -/
def outputPos (i : Nat) : Nat := beValue (L.keccak256 (beBytes 32 l2OutputsSlot.toNat)).bytes + 2 * i

structure StoresOutputs (content : H256 → Bytes → Option Bytes) (storageRoot : H256)
    (outputs : List OutputProposal) : Prop where
  length_le : outputs.length ≤ 2 ^ 63
  root : ∀ i o, outputs[i]? = some o → wordAt L content storageRoot (outputPos L i) =
    some (BitVec.ofNat 256 (beValue (L.keccak256 o.preimage).bytes))
  packed : ∀ i o, outputs[i]? = some o → wordAt L content storageRoot (outputPos L i + 1) = some o.packed
  none_behind : ∀ i < 2 ^ 63, outputs[i]? = none → valueAt L content storageRoot (outputPos L i) = none

def OracleHolds (content : H256 → Bytes → Option Bytes) (root : H256) (l2OracleAddress : H160)
    (outputs : List OutputProposal) : Prop :=
  ∃ value account, content root (L.keccak256 l2OracleAddress.bytes).bytes = some value ∧
    L.decodeAccount value = some account ∧ StoresOutputs L content account.storageRoot outputs

/-- The state is that of the element. -/
def BoundTo (outputs : List OutputProposal) (index : Nat) (state : IntermediateState) : Prop :=
  ∃ o, outputs[index]? = some o ∧ state.height.height = o.blockNumberU64 ∧
    state.commitment.timestamp = o.timestampU64 ∧ state.commitment.stateRoot = o.stateRoot

variable {L} {content : H256 → Bytes → Option Bytes}

/-- The state root can be read off the preimage. -/
theorem outputPreimage_stateRoot {v s w b v' s' w' b' : H256}
    (h : outputPreimage v s w b = outputPreimage v' s' w' b') : s = s' := by
  unfold outputPreimage at h
  obtain ⟨h, -⟩ := List.append_inj h (by simp)
  obtain ⟨h, -⟩ := List.append_inj h (by simp)
  obtain ⟨-, h⟩ := List.append_inj h (by simp)
  exact BytesN.bytes_injective h

theorem toNat_mul_two (index : UInt64) : (index * 2).toNat = 2 * (index.toNat % 2 ^ 63) := by
  rw [UInt64.toNat_mul]
  have htwo : (2 : UInt64).toNat = 2 := rfl
  rw [htwo]
  omega

theorem deriveArrayItemKey_ok {index offset : UInt64} {key : Bytes}
    (h : deriveArrayItemKey L l2OutputsSlot index offset = .ok key) :
    key = (L.keccak256 (beBytes 32 (outputPos L (index.toNat % 2 ^ 63) + offset.toNat))).bytes := by
  unfold deriveArrayItemKey at h
  simp only at h
  split at h
  · obtain rfl := Except.ok.inj h
    rw [toNat_mul_two, outputPos]
  · cases h

theorem wordFromProof_ok (hsound : L.trieGet.Sound content) {text : String} {index offset : UInt64} {key : Bytes}
    (hkey : deriveArrayItemKey L l2OutputsSlot index offset = .ok key) {root : H256} {proof : List Bytes}
    {w : BitVec 256} (h : wordFromProof L text key root proof = .ok w) :
    valueAt L content root (outputPos L (index.toNat % 2 ^ 63) + offset.toNat) ≠ none ∧
      wordAt L content root (outputPos L (index.toNat % 2 ^ 63) + offset.toNat) = some w := by
  obtain ⟨found, hfound, h⟩ := except_bind_ok.mp h
  obtain ⟨value, hvalue, h⟩ := except_bind_ok.mp h
  rw [okOr_eq_ok] at hvalue h
  have hin : valueAt L content root (outputPos L (index.toNat % 2 ^ 63) + offset.toNat) = some value := by
    have hget : L.trieGet proof root key = .ok found := except_mapError_ok.mp hfound
    rw [valueAt, ← deriveArrayItemKey_ok hkey, ← hsound _ _ _ _ hget, hvalue]
  rw [wordAt, hin]
  exact ⟨Option.some_ne_none value, h⟩

theorem packed_toNat : o.packed.toNat = o.l2BlockNumber.toNat * 2 ^ 128 + o.timestamp.toNat := by
  unfold OutputProposal.packed
  rw [BitVec.toNat_append, ← Nat.shiftLeft_add_eq_or_of_lt o.timestamp.isLt, Nat.shiftLeft_eq]

theorem packed_timestamp : UInt64.ofNat (o.packed.toNat % 2 ^ 128) = o.timestampU64 := by
  have hlt := o.timestamp.isLt
  rw [packed_toNat, OutputProposal.timestampU64]
  congr 1
  omega

theorem packed_blockNumber : UInt64.ofNat (o.packed.toNat / 2 ^ 128) = o.blockNumberU64 := by
  have hlt := o.timestamp.isLt
  rw [packed_toNat, OutputProposal.blockNumberU64]
  congr 1
  omega

theorem beBytes_word (h : H256) : beBytes 32 (BitVec.ofNat 256 (beValue h.bytes)).toNat = h.bytes := by
  have hlen : h.bytes.length = 32 := h.length_bytes
  have hlt : beValue h.bytes < 2 ^ 256 := by
    have := beValue_lt h.bytes
    rw [hlen] at this
    exact this
  have hback := beBytes_beValue h.bytes
  rw [hlen] at hback
  rw [BitVec.toNat_ofNat, Nat.mod_eq_of_lt hlt, hback]

section Accepted

variable {payload : OptimismPayloadProof} {root : H256} {l2OracleAddress : H160}
  {consensusStateId : ConsensusStateId} {state : IntermediateState} {outputs : List OutputProposal}

def OptimismPayloadProof.preimage (payload : OptimismPayloadProof) : Bytes :=
  outputPreimage payload.version payload.stateRoot payload.withdrawalStorageRoot payload.l2BlockHash

theorem verifyOptimismPayload_ok (hsound : L.trieGet.Sound content)
    (horacle : OracleHolds L content root l2OracleAddress outputs)
    (h : verifyOptimismPayload L payload root l2OracleAddress consensusStateId = .ok state) :
    state = ⟨⟨⟨.evm 0, consensusStateId⟩, payload.blockNumber⟩, ⟨payload.timestamp, none, payload.stateRoot⟩⟩ ∧
      ∃ o, outputs[payload.outputRootIndex.toNat % 2 ^ 63]? = some o ∧
        L.keccak256 payload.preimage = L.keccak256 o.preimage ∧
        (payload.timestamp = o.timestampU64 ∨ payload.blockNumber = o.blockNumberU64) := by
  obtain ⟨stored, account, hstored, haccount, hstores⟩ := horacle
  obtain ⟨account', hproven, h⟩ := except_bind_ok.mp h
  obtain rfl : account' = account := by
    obtain ⟨value, hget, hdecode⟩ := EvmCommon.getContractAccount_ok hproven
    have hvalue : value = stored := Option.some.inj ((hsound _ _ _ _ hget).trans hstored)
    rw [hvalue, haccount] at hdecode
    exact (Option.some.inj hdecode).symm
  obtain ⟨rootKey, hrootKey, h⟩ := except_bind_ok.mp h
  obtain ⟨rootWord, hrootWord, h⟩ := except_bind_ok.mp h
  obtain ⟨hroot, h⟩ := errIf_bind_ok.mp h
  obtain ⟨packedKey, hpackedKey, h⟩ := except_bind_ok.mp h
  obtain ⟨packedWord, hpackedWord, h⟩ := except_bind_ok.mp h
  obtain ⟨heither, h⟩ := errIf_bind_ok.mp h
  refine ⟨(Except.ok.inj h).symm, ?_⟩
  obtain ⟨hpresent, hrootRead⟩ := wordFromProof_ok hsound hrootKey hrootWord
  obtain ⟨-, hpackedRead⟩ := wordFromProof_ok hsound hpackedKey hpackedWord
  have hj : payload.outputRootIndex.toNat % 2 ^ 63 < 2 ^ 63 := Nat.mod_lt _ (by decide)
  cases ho : outputs[payload.outputRootIndex.toNat % 2 ^ 63]? with
  | none => exact absurd (hstores.none_behind _ hj ho) hpresent
  | some o =>
    obtain rfl := Option.some.inj (hrootRead.symm.trans (hstores.root _ o ho))
    obtain rfl := Option.some.inj (hpackedRead.symm.trans (hstores.packed _ o ho))
    rw [beBytes_word, not_not] at hroot
    rw [packed_timestamp, packed_blockNumber] at heither
    refine ⟨o, rfl, (BytesN.bytes_injective hroot).symm, ?_⟩
    by_cases htime : payload.timestamp = o.timestampU64
    · exact .inl htime
    · exact .inr (not_not.mp fun hnumber => heither ⟨htime, hnumber⟩)

/-- An accepted payload is bound to the element it names exactly if its index is below `2 ^ 63` and it has
both the time and the block number of the element, or neither. -/
theorem optimism_output_bound_iff (hsound : L.trieGet.Sound content)
    (horacle : OracleHolds L content root l2OracleAddress outputs)
    (hcollision : ∀ o ∈ outputs, L.keccak256 payload.preimage = L.keccak256 o.preimage →
      payload.preimage = o.preimage)
    (hok : verifyOptimismPayload L payload root l2OracleAddress consensusStateId = .ok state) :
    BoundTo outputs payload.outputRootIndex.toNat state ↔
      payload.outputRootIndex.toNat < 2 ^ 63 ∧ ∀ o, outputs[payload.outputRootIndex.toNat]? = some o →
        (payload.timestamp = o.timestampU64 ↔ payload.blockNumber = o.blockNumberU64) := by
  obtain ⟨rfl, o, ho, hhash, heither⟩ := verifyOptimismPayload_ok hsound horacle hok
  have hroot : payload.stateRoot = o.stateRoot :=
    outputPreimage_stateRoot (hcollision o (List.mem_of_getElem? ho) hhash)
  constructor
  · rintro ⟨o', ho', hnumber, htime, -⟩
    obtain ⟨_, _, -, -, hstores⟩ := horacle
    refine ⟨lt_of_lt_of_le (List.getElem?_eq_some_iff.mp ho').1 hstores.length_le, fun o'' ho'' => ?_⟩
    obtain rfl := Option.some.inj (ho'.symm.trans ho'')
    exact ⟨fun _ => hnumber, fun _ => htime⟩
  · rintro ⟨hindex, hboth⟩
    rw [Nat.mod_eq_of_lt hindex] at ho
    have hiff := hboth o ho
    refine ⟨o, ho, ?_, ?_, hroot⟩
    · rcases heither with htime | hnumber
      · exact hiff.mp htime
      · exact hnumber
    · rcases heither with htime | hnumber
      · exact htime
      · exact hiff.mpr hnumber

end Accepted

/-- A hash that keeps the positions of words. -/
def positionHash (b : Bytes) : H256 := if h : b.length = 32 then ⟨b, h⟩ else sampleDigest b

theorem positionHash_bytes {b : Bytes} (h : b.length = 32) : (positionHash b).bytes = b := by
  have hkept : positionHash b = ⟨b, h⟩ := dif_pos h
  rw [hkept]
  rfl

def sampleOracle : H160 := BytesN.ofNat 20 0x0F

def sampleOutput : OutputProposal :=
  ⟨BytesN.zero 32, BytesN.ofNat 32 5, BytesN.ofNat 32 6, BytesN.ofNat 32 7, 1000, 70⟩

/-- The array has one element. -/
def oracleStorage (pos : Nat) : Option Bytes :=
  if pos = 3 then some (rlpBytes (positionHash sampleOutput.preimage).bytes)
  else if pos = 4 then some (rlpNat sampleOutput.packed.toNat)
  else none

def oracleContent (root : H256) (key : Bytes) : Option Bytes :=
  if root = BytesN.ofNat 32 1 then
    if key = (positionHash sampleOracle.bytes).bytes then some EvmCommon.sampleAccount.encode else none
  else if root = EvmCommon.sampleAccount.storageRoot then oracleStorage (beValue key)
  else none

def oracleLibraries : Libraries where
  keccak256 := positionHash
  decodeProof _ := none
  trieGet _ root key := .ok (oracleContent root key)
  decodeAccount b := if b = EvmCommon.sampleAccount.encode then some EvmCommon.sampleAccount else none
  decodeU256 b := some (.ofNat 256 (beValue b.tail))

theorem oracleLibraries_sound : oracleLibraries.trieGet.Sound oracleContent := by
  intro nodes root key value h
  exact (Except.ok.inj h).symm

theorem valueAt_oracle (pos : Nat) :
    valueAt oracleLibraries oracleContent EvmCommon.sampleAccount.storageRoot pos = oracleStorage (pos % 2 ^ 256) := by
  have hkey : (oracleLibraries.keccak256 (beBytes 32 pos)).bytes = beBytes 32 pos :=
    positionHash_bytes (length_beBytes 32 pos)
  have hroot : EvmCommon.sampleAccount.storageRoot ≠ BytesN.ofNat 32 1 := by decide +kernel
  rw [valueAt, hkey, oracleContent, if_neg hroot, if_pos rfl, beValue_beBytes]
  rfl

theorem outputPos_oracle (i : Nat) : outputPos oracleLibraries i = 3 + 2 * i := by
  have hbase : beValue (oracleLibraries.keccak256 (beBytes 32 l2OutputsSlot.toNat)).bytes = 3 := by decide +kernel
  rw [outputPos, hbase]

theorem oracle_holds : OracleHolds oracleLibraries oracleContent (BytesN.ofNat 32 1) sampleOracle [sampleOutput] := by
  refine ⟨EvmCommon.sampleAccount.encode, EvmCommon.sampleAccount, by decide +kernel, ?_, ?_⟩
  · simp [oracleLibraries]
  have honly {i : Nat} {o : OutputProposal} (h : [sampleOutput][i]? = some o) : i = 0 ∧ o = sampleOutput := by
    cases i with
    | zero => exact ⟨rfl, (Option.some.inj h).symm⟩
    | succ i => simp at h
  constructor
  · decide
  · intro i o h
    obtain ⟨rfl, rfl⟩ := honly h
    rw [wordAt, valueAt_oracle, outputPos_oracle]
    decide +kernel
  · intro i o h
    obtain ⟨rfl, rfl⟩ := honly h
    rw [wordAt, valueAt_oracle, outputPos_oracle]
    decide +kernel
  · intro i hi h
    have hpos : 1 ≤ i := by
      by_contra hzero
      obtain rfl : i = 0 := by omega
      simp at h
    have hfits : (3 + 2 * i) % 2 ^ 256 = 3 + 2 * i := Nat.mod_eq_of_lt (by omega)
    rw [valueAt_oracle, outputPos_oracle, hfits, oracleStorage, if_neg (by omega), if_neg (by omega)]

def samplePayload (timestamp : UInt64) : OptimismPayloadProof where
  stateRoot := BytesN.ofNat 32 5
  withdrawalStorageRoot := BytesN.ofNat 32 6
  l2BlockHash := BytesN.ofNat 32 7
  version := BytesN.zero 32
  l2OracleProof := []
  outputRootProof := []
  multiProof := []
  outputRootIndex := 0
  blockNumber := 70
  timestamp := timestamp

def sampleState (timestamp : UInt64) : IntermediateState where
  height := ⟨⟨.evm 0, sampleConsensusId⟩, 70⟩
  commitment := ⟨timestamp, none, BytesN.ofNat 32 5⟩

theorem optimism_output_bound_iff_sample :
    verifyOptimismPayload oracleLibraries (samplePayload 1000) (BytesN.ofNat 32 1) sampleOracle sampleConsensusId =
        .ok (sampleState 1000) ∧
      BoundTo [sampleOutput] 0 (sampleState 1000) := by
  have hok : verifyOptimismPayload oracleLibraries (samplePayload 1000) (BytesN.ofNat 32 1) sampleOracle
      sampleConsensusId = .ok (sampleState 1000) := by decide +kernel
  refine ⟨hok, (optimism_output_bound_iff oracleLibraries_sound oracle_holds ?_ hok).mpr ⟨by decide, ?_⟩⟩
  · intro o ho _
    obtain rfl := List.mem_singleton.mp ho
    rfl
  · intro o ho
    obtain rfl : sampleOutput = o := Option.some.inj ho
    decide

/-- With another time the payload is accepted too, and the state gets that time. -/
theorem wrong_time_accepted :
    oracleLibraries.trieGet.Sound oracleContent ∧
      OracleHolds oracleLibraries oracleContent (BytesN.ofNat 32 1) sampleOracle [sampleOutput] ∧
      verifyOptimismPayload oracleLibraries (samplePayload 2000) (BytesN.ofNat 32 1) sampleOracle
        sampleConsensusId = .ok (sampleState 2000) ∧
      ¬ BoundTo [sampleOutput] 0 (sampleState 2000) := by
  refine ⟨oracleLibraries_sound, oracle_holds, by decide +kernel, ?_⟩
  rintro ⟨o, ho, -, htime, -⟩
  obtain rfl : sampleOutput = o := Option.some.inj ho
  revert htime
  decide

end Hyperbridge.Optimism

import Hyperbridge.Bsc.Primitives
import Hyperbridge.Lib.Rlp
import Hyperbridge.Optimism.Payload

/-!
# Nodes of an Arbitrum chain

`verify_arbitrum_payload` takes a state of the L2 chain from the `_nodes` map of the rollup contract on L1, which keeps
a hash for each node. The prover sends what was hashed, down to the header; so for one node the number, the time and the
state root are the same whatever is sent. Headers that differ can have the same encoding, but only in later fields.
-/

namespace Hyperbridge.Arbitrum

open Lib Ismp

open Bsc (CodecHeader rlpTrailing lowU64)

open Optimism (IntermediateState Libraries wordFromProof)

/-- The slot of the `_nodes` map of the rollup contract. -/
def nodesSlot : Nat := 118

structure GlobalState where
  blockHash : H256
  sendRoot : H256
  inboxPosition : UInt64
  positionInMessage : UInt64
  deriving DecidableEq

/-- `abi_encode_packed`, as hashed on L1. -/
def GlobalState.packed (s : GlobalState) : Bytes :=
  asBytes "Global state:" ++ (s.blockHash.bytes ++ (s.sendRoot.bytes ++
    (beBytes 8 s.inboxPosition.toNat ++ beBytes 8 s.positionInMessage.toNat)))

inductive MachineStatus where
  | running
  | finished
  | errored
  | tooFar
  deriving DecidableEq

def MachineStatus.toU8 : MachineStatus → UInt8
  | running => 0
  | finished => 1
  | errored => 2
  | tooFar => 3

structure ArbitrumPayloadProof where
  arbitrumHeader : CodecHeader
  globalState : GlobalState
  machineStatus : MachineStatus
  inboxMaxCount : BitVec 256
  nodeNumber : UInt64
  storageProof : List Bytes
  contractProof : List Bytes

variable (L : Libraries)

def GlobalState.hash (s : GlobalState) : H256 := L.keccak256 s.packed

def packedState (globalState : GlobalState) (machineStatus : MachineStatus) (inboxMaxCount : BitVec 256) : Bytes :=
  (globalState.hash L).bytes ++ (beBytes 32 inboxMaxCount.toNat ++ [machineStatus.toU8])

/-- `get_state_hash`, the hash the contract keeps. -/
def getStateHash (globalState : GlobalState) (machineStatus : MachineStatus) (inboxMaxCount : BitVec 256) : H256 :=
  L.keccak256 (packedState L globalState machineStatus inboxMaxCount)

def headerHash (header : CodecHeader) : H256 := L.keccak256 header.encode

/-- The storage key of the state hash of a node. -/
def stateHashKey (nodeNumber : UInt64) : Bytes :=
  (EvmCommon.deriveMapKey L.toLibraries (beBytes 32 nodeNumber.toNat) nodesSlot).bytes

/-- `verify_arbitrum_payload`. -/
def verifyArbitrumPayload (payload : ArbitrumPayloadProof) (root : H256) (rollupCoreAddress : H160)
    (consensusStateId : ConsensusStateId) : Except Error IntermediateState := do
  let account ← EvmCommon.getContractAccount L.toLibraries payload.contractProof rollupCoreAddress.bytes root
  errIf (payload.globalState.sendRoot.bytes ≠ payload.arbitrumHeader.extraData)
    (.custom "Arbitrum header extra data does not match send root in global state")
  errIf (payload.globalState.blockHash ≠ headerHash L payload.arbitrumHeader)
    (.custom "Arbitrum header hash does not match block hash in global state")
  let stateHash := getStateHash L payload.globalState payload.machineStatus payload.inboxMaxCount
  let proofValue ← wordFromProof L "Error decoding state hash " (stateHashKey L payload.nodeNumber) account.storageRoot
    payload.storageProof
  errIf (beBytes 32 proofValue.toNat ≠ stateHash.bytes)
    (.membershipProofVerificationFailed "State hash from proof does not match calculated state hash")
  pure
    { height := ⟨⟨.evm 0, consensusStateId⟩, lowU64 payload.arbitrumHeader.number⟩
      commitment := ⟨payload.arbitrumHeader.timestamp, none, payload.arbitrumHeader.stateRoot⟩ }

structure Node where
  header : CodecHeader
  globalState : GlobalState
  machineStatus : MachineStatus
  inboxMaxCount : BitVec 256

def Node.OfHeader (node : Node) : Prop :=
  node.globalState.blockHash = headerHash L node.header ∧ node.globalState.sendRoot.bytes = node.header.extraData

def Node.stateHash (node : Node) : H256 := getStateHash L node.globalState node.machineStatus node.inboxMaxCount

/-- The byte strings hashed on the way to the state hash. -/
def Node.hashed (node : Node) : List Bytes :=
  [node.header.encode, node.globalState.packed, packedState L node.globalState node.machineStatus node.inboxMaxCount]

def Stores (content : H256 → Bytes → Option Bytes) (root : H256) (rollupCoreAddress : H160) (nodeNumber : UInt64)
    (node : Node) : Prop :=
  ∃ value account stored word, content root (L.keccak256 rollupCoreAddress.bytes).bytes = some value ∧
    L.decodeAccount value = some account ∧ content account.storageRoot (stateHashKey L nodeNumber) = some stored ∧
    L.decodeU256 stored = some word ∧ beBytes 32 word.toNat = (node.stateHash L).bytes

/-- The hash tells apart what is hashed for the two nodes. -/
def Apart (a b : Node) : Prop := Set.InjOn L.keccak256 {x | x ∈ a.hashed L ∨ x ∈ b.hashed L}

/-- The height and the commitment are those of the header. -/
def BoundToHeader (header : CodecHeader) (state : IntermediateState) : Prop :=
  state.height.height = lowU64 header.number ∧ state.commitment.timestamp = header.timestamp ∧
    state.commitment.stateRoot = header.stateRoot

def ArbitrumPayloadProof.node (payload : ArbitrumPayloadProof) : Node :=
  ⟨payload.arbitrumHeader, payload.globalState, payload.machineStatus, payload.inboxMaxCount⟩

variable {L}

/-- The items before the optional ones. -/
def fixedItems (h : CodecHeader) : List Rlp.Item :=
  [.str h.parentHash.bytes, .str h.uncleHash.bytes, .str h.coinbase.bytes, .str h.stateRoot.bytes,
    .str h.transactionsRoot.bytes, .str h.receiptsRoot.bytes, .str h.logsBloom.bytes,
    .str (beMinimal h.difficulty.toNat), .str (beMinimal h.number.toNat), .str (beMinimal h.gasLimit.toNat),
    .str (beMinimal h.gasUsed.toNat), .str (beMinimal h.timestamp.toNat), .str h.extraData, .str h.mixHash.bytes,
    .str h.nonce.bytes]

def optionalFields (h : CodecHeader) : List (Option Bytes) :=
  [h.baseFeePerGas.map fun n => beMinimal n.toNat, h.withdrawalsHash.map BytesN.bytes,
    h.blobGasUsed.map fun n => beMinimal n.toNat, h.excessBlobGasUsed.map fun n => beMinimal n.toNat,
    h.parentBeaconRoot.map BytesN.bytes]

theorem encode_eq (h : CodecHeader) :
    h.encode = (Rlp.Item.listOf ((fixedItems h).map Rlp.Item.encode ++
      rlpTrailing ((optionalFields h).map (Option.map rlpBytes)))).encode := by
  simp only [CodecHeader.encode, fixedItems, optionalFields, Rlp.Item.encode_listOf, List.map_cons, List.map_nil,
    Rlp.Item.encode_str, Option.map_map]
  rfl

theorem mem_rlpTrailing {fields : List (Option Bytes)} {item : Bytes} (h : item ∈ rlpTrailing fields) :
    item = [128] ∨ some item ∈ fields := by
  induction fields with
  | nil => cases h
  | cons field fields ih =>
    cases field with
    | some b =>
      rcases List.mem_cons.mp h with rfl | hrest
      · exact Or.inr List.mem_cons_self
      · exact (ih hrest).imp_right (List.mem_cons_of_mem _)
    | none =>
      rw [rlpTrailing] at h
      split at h
      · rcases List.mem_cons.mp h with rfl | hrest
        · exact Or.inl rfl
        · exact (ih hrest).imp_right (List.mem_cons_of_mem _)
      · cases h

theorem length_rlpTrailing_le (fields : List (Option Bytes)) : (rlpTrailing fields).length ≤ fields.length := by
  induction fields with
  | nil => exact Nat.le_refl 0
  | cons field fields ih =>
    cases field with
    | some b => exact Nat.succ_le_succ ih
    | none =>
      rw [rlpTrailing]
      split
      · exact Nat.succ_le_succ ih
      · exact Nat.zero_le _

theorem length_word_lt {n : Nat} (hn : n < 2 ^ 256) : (beMinimal n).length < 2 ^ 32 :=
  lt_of_le_of_lt (@length_beMinimal_le n 32 hn) (by decide)

theorem length_fixed_lt {h : CodecHeader} (hextra : h.extraData.length < 2 ^ 32) :
    ∀ item ∈ fixedItems h, item.payload.length < 2 ^ 32 := by
  have hbytes {n : Nat} (b : BytesN n) (hn : n < 2 ^ 32) : (Rlp.Item.str b.bytes).payload.length < 2 ^ 32 :=
    lt_of_eq_of_lt b.length_bytes hn
  have hnumber (n : UInt64) : (beMinimal n.toNat).length < 2 ^ 32 :=
    length_word_lt (n.toNat_lt.trans (by decide))
  simp only [fixedItems, List.forall_mem_cons]
  exact ⟨hbytes _ (by decide), hbytes _ (by decide), hbytes _ (by decide), hbytes _ (by decide),
    hbytes _ (by decide), hbytes _ (by decide), hbytes _ (by decide), length_word_lt h.difficulty.isLt,
    length_word_lt h.number.isLt, hnumber _, hnumber _, hnumber _, hextra, hbytes _ (by decide),
    hbytes _ (by decide), fun _ hmem => absurd hmem List.not_mem_nil⟩

theorem length_optional_lt (h : CodecHeader) : ∀ b, some b ∈ optionalFields h → b.length < 2 ^ 32 := by
  intro b hb
  have hnumber (n : UInt64) : (beMinimal n.toNat).length < 2 ^ 32 :=
    length_word_lt (n.toNat_lt.trans (by decide))
  have hhash (x : H256) : x.bytes.length < 2 ^ 32 := lt_of_eq_of_lt x.length_bytes (by decide)
  simp only [optionalFields, List.mem_cons, List.not_mem_nil, or_false, @eq_comm _ (some b),
    Option.map_eq_some_iff] at hb
  rcases hb with ⟨n, -, rfl⟩ | ⟨x, -, rfl⟩ | ⟨n, -, rfl⟩ | ⟨n, -, rfl⟩ | ⟨x, -, rfl⟩
  · exact length_word_lt n.isLt
  · exact hhash x
  · exact hnumber n
  · exact hnumber n
  · exact hhash x

theorem fits_encode {h : CodecHeader} (hextra : h.extraData.length < 2 ^ 32) :
    (Rlp.Item.listOf ((fixedItems h).map Rlp.Item.encode ++
      rlpTrailing ((optionalFields h).map (Option.map rlpBytes)))).Fits := by
  have hshort {item : Rlp.Item} (hlt : item.payload.length < 2 ^ 32) : item.encode.length ≤ 2 ^ 33 := by
    have hle := Rlp.length_encode_le (hlt.trans (by decide) : item.Fits)
    omega
  have hitem : ∀ item ∈ (fixedItems h).map Rlp.Item.encode ++
      rlpTrailing ((optionalFields h).map (Option.map rlpBytes)), item.length ≤ 2 ^ 33 := by
    intro item hmem
    rcases List.mem_append.mp hmem with hfixed | htrailing
    · obtain ⟨x, hx, rfl⟩ := List.mem_map.mp hfixed
      exact hshort (length_fixed_lt hextra x hx)
    · rcases mem_rlpTrailing htrailing with rfl | hsome
      · decide
      · obtain ⟨field, hfield, heq⟩ := List.mem_map.mp hsome
        obtain ⟨b, rfl, rfl⟩ := Option.map_eq_some_iff.mp heq
        rw [← Rlp.Item.encode_str]
        exact hshort (length_optional_lt h b hfield)
  have hcount := length_rlpTrailing_le ((optionalFields h).map (Option.map rlpBytes))
  have hsum := Rlp.length_flatten_le hitem
  have hfixed : ((fixedItems h).map Rlp.Item.encode).length = 15 := rfl
  have hoptional : ((optionalFields h).map (Option.map rlpBytes)).length = 5 := rfl
  rw [List.length_append] at hsum
  show List.length (List.flatten _) < 2 ^ 64
  omega

theorem fixedItems_inj {h h' : CodecHeader} (hextra : h.extraData.length < 2 ^ 32)
    (hextra' : h'.extraData.length < 2 ^ 32) (heq : h.encode = h'.encode) : fixedItems h = fixedItems h' := by
  rw [encode_eq h, encode_eq h'] at heq
  obtain ⟨hlist, -⟩ := Rlp.encode_append_inj (fits_encode hextra) (fits_encode hextra')
    (congrArg (fun bytes => bytes ++ []) heq)
  have hflatten := congrArg Rlp.Item.payload hlist
  simp only [Rlp.Item.listOf, List.flatten_append] at hflatten
  have hlength : (fixedItems h).length = (fixedItems h').length := rfl
  exact (Rlp.flatten_encode_append_inj hlength (fun a ha => (length_fixed_lt hextra a ha).trans (by decide))
    (fun b hb => (length_fixed_lt hextra' b hb).trans (by decide)) hflatten).1

theorem encode_inj {h h' : CodecHeader} (hextra : h.extraData.length < 2 ^ 32)
    (hextra' : h'.extraData.length < 2 ^ 32) (heq : h.encode = h'.encode) :
    h.number = h'.number ∧ h.timestamp = h'.timestamp ∧ h.stateRoot = h'.stateRoot := by
  have hitems := fixedItems_inj hextra hextra' heq
  simp only [fixedItems, List.cons.injEq, Rlp.Item.str, Rlp.Item.mk.injEq, true_and] at hitems
  obtain ⟨-, -, -, hroot, -, -, -, -, hnumber, -, -, htime, -⟩ := hitems
  exact ⟨BitVec.eq_of_toNat_eq (beMinimal_injective hnumber), UInt64.toNat_inj.mp (beMinimal_injective htime),
    BytesN.bytes_injective hroot⟩

section Accepted

variable {content : H256 → Bytes → Option Bytes} {payload payload' : ArbitrumPayloadProof} {root : H256}
  {rollupCoreAddress : H160} {consensusStateId consensusStateId' : ConsensusStateId} {state state' : IntermediateState}
  {nodeNumber : UInt64} {a b : Node}

theorem verifyArbitrumPayload_ok (hsound : L.trieGet.Sound content)
    (h : verifyArbitrumPayload L payload root rollupCoreAddress consensusStateId = .ok state) :
    Stores L content root rollupCoreAddress payload.nodeNumber payload.node ∧ payload.node.OfHeader L ∧
      BoundToHeader payload.arbitrumHeader state := by
  obtain ⟨account, haccount, h⟩ := except_bind_ok.mp h
  obtain ⟨hsend, h⟩ := errIf_bind_ok.mp h
  obtain ⟨hblock, h⟩ := errIf_bind_ok.mp h
  obtain ⟨word, hword, h⟩ := except_bind_ok.mp h
  obtain ⟨hhash, h⟩ := errIf_bind_ok.mp h
  rw [not_not] at hsend hblock hhash
  obtain ⟨value, hvalue, hdecode⟩ := EvmCommon.getContractAccount_ok haccount
  obtain ⟨found, hfound, hread⟩ := except_bind_ok.mp hword
  obtain ⟨stored, hstored, hdecoded⟩ := except_bind_ok.mp hread
  rw [okOr_eq_ok] at hstored hdecoded
  obtain rfl := hstored
  have hget := hsound _ _ _ _ (except_mapError_ok.mp hfound)
  rw [← Except.ok.inj h]
  exact ⟨⟨value, account, stored, word, (hsound _ _ _ _ hvalue).symm, hdecode, hget.symm, hdecoded, hhash⟩,
    ⟨hblock, hsend⟩, rfl, rfl, rfl⟩

theorem Stores.stateHash_eq (ha : Stores L content root rollupCoreAddress nodeNumber a)
    (hb : Stores L content root rollupCoreAddress nodeNumber b) : a.stateHash L = b.stateHash L := by
  obtain ⟨value, account, stored, word, hvalue, haccount, hstored, hword, hhash⟩ := ha
  obtain ⟨value', account', stored', word', hvalue', haccount', hstored', hword', hhash'⟩ := hb
  obtain rfl := Option.some.inj (hvalue.symm.trans hvalue')
  obtain rfl := Option.some.inj (haccount.symm.trans haccount')
  obtain rfl := Option.some.inj (hstored.symm.trans hstored')
  obtain rfl := Option.some.inj (hword.symm.trans hword')
  exact BytesN.bytes_injective (hhash.symm.trans hhash')

theorem Apart.header (h : Apart L a b) (heq : headerHash L a.header = headerHash L b.header) :
    a.header.encode = b.header.encode :=
  h (Or.inl (by simp [Node.hashed])) (Or.inr (by simp [Node.hashed])) heq

theorem Apart.globalState (h : Apart L a b) (heq : a.globalState.hash L = b.globalState.hash L) :
    a.globalState.packed = b.globalState.packed :=
  h (Or.inl (by simp [Node.hashed])) (Or.inr (by simp [Node.hashed])) heq

theorem Apart.stateHash (h : Apart L a b) (heq : a.stateHash L = b.stateHash L) :
    packedState L a.globalState a.machineStatus a.inboxMaxCount =
      packedState L b.globalState b.machineStatus b.inboxMaxCount :=
  h (Or.inl (by simp [Node.hashed])) (Or.inr (by simp [Node.hashed])) heq

theorem header_eq (hinj : Apart L a b) (ha : a.OfHeader L) (hb : b.OfHeader L)
    (hhash : a.stateHash L = b.stateHash L) :
    a.header.number = b.header.number ∧ a.header.timestamp = b.header.timestamp ∧
      a.header.stateRoot = b.header.stateRoot := by
  have hshort {node : Node} (h : node.OfHeader L) : node.header.extraData.length < 2 ^ 32 := by
    rw [← h.2, BytesN.length_bytes]
    decide
  have hglobal : a.globalState.hash L = b.globalState.hash L :=
    BytesN.bytes_injective (List.append_inj_left (hinj.stateHash hhash) (by simp))
  have hblock : a.globalState.blockHash = b.globalState.blockHash :=
    BytesN.bytes_injective (List.append_inj_left (List.append_cancel_left (hinj.globalState hglobal)) (by simp))
  rw [ha.1, hb.1] at hblock
  exact encode_inj (hshort ha) (hshort hb) (hinj.header hblock)

/-- Accepted payloads for one node have the same height, time and state root: those of the header the contract's node
has. -/
theorem node_determines_commitment (hsound : L.trieGet.Sound content)
    (hnumber : payload.nodeNumber = payload'.nodeNumber) (hinj : Apart L payload.node payload'.node)
    (hok : verifyArbitrumPayload L payload root rollupCoreAddress consensusStateId = .ok state)
    (hok' : verifyArbitrumPayload L payload' root rollupCoreAddress consensusStateId' = .ok state') :
    (state.height.height = state'.height.height ∧ state.commitment.timestamp = state'.commitment.timestamp ∧
        state.commitment.stateRoot = state'.commitment.stateRoot) ∧
      (∃ node, Stores L content root rollupCoreAddress payload.nodeNumber node ∧ node.OfHeader L ∧
        BoundToHeader node.header state) ∧
      ∀ node, Stores L content root rollupCoreAddress payload.nodeNumber node → node.OfHeader L →
        Apart L payload.node node → BoundToHeader node.header state := by
  obtain ⟨hstores, hheader, hnum, htime, hroot⟩ := verifyArbitrumPayload_ok hsound hok
  obtain ⟨hstores', hheader', hnum', htime', hroot'⟩ := verifyArbitrumPayload_ok hsound hok'
  refine ⟨?_, ⟨payload.node, hstores, hheader, hnum, htime, hroot⟩, fun node hnode hof hapart => ?_⟩
  · rw [← hnumber] at hstores'
    obtain ⟨h₁, h₂, h₃⟩ := header_eq hinj hheader hheader' (hstores.stateHash_eq hstores')
    rw [hnum, hnum', htime, htime', hroot, hroot']
    exact ⟨congrArg lowU64 h₁, h₂, h₃⟩
  · obtain ⟨h₁, h₂, h₃⟩ := header_eq hapart hheader hof (hstores.stateHash_eq hnode)
    exact ⟨hnum.trans (congrArg lowU64 h₁), htime.trans h₂, hroot.trans h₃⟩

end Accepted

def sampleRollup : H160 := BytesN.ofNat 20 0x0F

def sampleHeader (baseFeePerGas : Option (BitVec 256)) : CodecHeader where
  parentHash := BytesN.zero 32
  uncleHash := BytesN.zero 32
  coinbase := BytesN.zero 20
  stateRoot := BytesN.ofNat 32 5
  transactionsRoot := BytesN.zero 32
  receiptsRoot := BytesN.zero 32
  logsBloom := BytesN.zero 256
  difficulty := 1
  number := 70
  gasLimit := 0
  gasUsed := 0
  timestamp := 1000
  extraData := (BytesN.ofNat 32 6).bytes
  mixHash := BytesN.zero 32
  nonce := BytesN.zero 8
  baseFeePerGas := baseFeePerGas
  withdrawalsHash := some (BytesN.ofNat 32 7)
  blobGasUsed := none
  excessBlobGasUsed := none
  parentBeaconRoot := none

def samplePayload (baseFeePerGas : Option (BitVec 256)) : ArbitrumPayloadProof where
  arbitrumHeader := sampleHeader baseFeePerGas
  globalState := ⟨sampleDigest (sampleHeader none).encode, BytesN.ofNat 32 6, 3, 4⟩
  machineStatus := .finished
  inboxMaxCount := 9
  nodeNumber := 2
  storageProof := []
  contractProof := []

/-- An L1 state with that node. -/
def rollupContent (root : H256) (key : Bytes) : Option Bytes :=
  if root = BytesN.ofNat 32 1 then
    if key = (sampleDigest sampleRollup.bytes).bytes then some EvmCommon.sampleAccount.encode else none
  else if root = EvmCommon.sampleAccount.storageRoot then
    if key = (sampleDigest (sampleDigest (beBytes 32 2 ++ beBytes 32 nodesSlot)).bytes).bytes then
      some (rlpBytes (sampleDigest ((sampleDigest (samplePayload none).globalState.packed).bytes ++
        (beBytes 32 9 ++ [1]))).bytes)
    else none
  else none

def rollupLibraries : Libraries where
  keccak256 := sampleDigest
  decodeProof _ := none
  trieGet _ root key := .ok (rollupContent root key)
  decodeAccount b := if b = EvmCommon.sampleAccount.encode then some EvmCommon.sampleAccount else none
  decodeU256 b := some (.ofNat 256 (beValue b.tail))

theorem rollupLibraries_sound : rollupLibraries.trieGet.Sound rollupContent := by
  intro nodes root key value h
  exact (Except.ok.inj h).symm

def sampleState : IntermediateState where
  height := ⟨⟨.evm 0, sampleConsensusId⟩, 70⟩
  commitment := ⟨1000, none, BytesN.ofNat 32 5⟩

theorem verifyArbitrumPayload_sample {baseFeePerGas : Option (BitVec 256)}
    (h : baseFeePerGas = none ∨ baseFeePerGas = some 0) :
    verifyArbitrumPayload rollupLibraries (samplePayload baseFeePerGas) (BytesN.ofNat 32 1) sampleRollup
      sampleConsensusId = .ok sampleState := by
  rcases h with rfl | rfl
  · decide +kernel
  · decide +kernel

theorem apart_sample : Apart rollupLibraries (samplePayload none).node (samplePayload (some 0)).node := by
  have hsame : (samplePayload (some 0)).node.hashed rollupLibraries =
      (samplePayload none).node.hashed rollupLibraries := by decide +kernel
  have hinj : ∀ x ∈ (samplePayload none).node.hashed rollupLibraries,
      ∀ y ∈ (samplePayload none).node.hashed rollupLibraries, sampleDigest x = sampleDigest y → x = y := by
    decide +kernel
  intro x hx y hy heq
  rw [hsame, Set.mem_ofPred_eq, or_self] at hx hy
  exact hinj x hx y hy heq

theorem node_determines_commitment_sample :
    samplePayload none ≠ samplePayload (some 0) ∧
      verifyArbitrumPayload rollupLibraries (samplePayload none) (BytesN.ofNat 32 1) sampleRollup sampleConsensusId =
        .ok sampleState ∧
      verifyArbitrumPayload rollupLibraries (samplePayload (some 0)) (BytesN.ofNat 32 1) sampleRollup
        sampleConsensusId = .ok sampleState ∧
      ∃ node, Stores rollupLibraries rollupContent (BytesN.ofNat 32 1) sampleRollup 2 node ∧
        node.OfHeader rollupLibraries ∧ BoundToHeader node.header sampleState := by
  have hfirst := verifyArbitrumPayload_sample (Or.inl rfl)
  have hsecond := verifyArbitrumPayload_sample (Or.inr rfl)
  refine ⟨fun heq => ?_, hfirst, hsecond, ?_⟩
  · cases congrArg (fun payload => payload.arbitrumHeader.baseFeePerGas) heq
  · exact (node_determines_commitment rollupLibraries_sound rfl apart_sample hfirst hsecond).2.1

end Hyperbridge.Arbitrum

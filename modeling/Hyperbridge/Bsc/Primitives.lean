import Hyperbridge.Lib.Bytes
import Hyperbridge.Lib.Exec

/-!
# BSC headers and their extra data

The header of an EVM chain with its RLP encoding, and `parse_extra`, which takes apart the extra data of a BSC header:
vanity, validators of an epoch header, attestation, seal.
-/

namespace Hyperbridge.Bsc

open Lib

abbrev BlsPublicKey := BytesN 48

/-- `geth_primitives::CodecHeader`. -/
structure CodecHeader where
  parentHash : H256
  uncleHash : H256
  coinbase : H160
  stateRoot : H256
  transactionsRoot : H256
  receiptsRoot : H256
  logsBloom : BytesN 256
  difficulty : BitVec 256
  number : BitVec 256
  gasLimit : UInt64
  gasUsed : UInt64
  timestamp : UInt64
  extraData : Bytes
  mixHash : H256
  nonce : BytesN 8
  baseFeePerGas : Option (BitVec 256)
  withdrawalsHash : Option H256
  blobGasUsed : Option UInt64
  excessBlobGasUsed : Option UInt64
  parentBeaconRoot : Option H256
  deriving DecidableEq

/-- `rlp(trailing)`: fields up to the last one that is there. -/
def rlpTrailing : List (Option Bytes) → List Bytes
  | [] => []
  | some item :: rest => item :: rlpTrailing rest
  | none :: rest => if rest.any Option.isSome then [128] :: rlpTrailing rest else []

def CodecHeader.encode (h : CodecHeader) : Bytes :=
  rlpList ([rlpBytes h.parentHash.bytes, rlpBytes h.uncleHash.bytes, rlpBytes h.coinbase.bytes,
    rlpBytes h.stateRoot.bytes, rlpBytes h.transactionsRoot.bytes, rlpBytes h.receiptsRoot.bytes,
    rlpBytes h.logsBloom.bytes, rlpNat h.difficulty.toNat, rlpNat h.number.toNat, rlpNat h.gasLimit.toNat,
    rlpNat h.gasUsed.toNat, rlpNat h.timestamp.toNat, rlpBytes h.extraData, rlpBytes h.mixHash.bytes,
    rlpBytes h.nonce.bytes] ++ rlpTrailing
    [h.baseFeePerGas.map fun n => rlpNat n.toNat, h.withdrawalsHash.map fun b => rlpBytes b.bytes,
      h.blobGasUsed.map fun n => rlpNat n.toNat, h.excessBlobGasUsed.map fun n => rlpNat n.toNat,
      h.parentBeaconRoot.map fun b => rlpBytes b.bytes])

/-- `low_u64`. -/
def lowU64 (n : BitVec 256) : UInt64 := UInt64.ofNat n.toNat

structure VoteData where
  sourceNumber : UInt64
  sourceHash : H256
  targetNumber : UInt64
  targetHash : H256
  deriving DecidableEq

def VoteData.encode (v : VoteData) : Bytes :=
  rlpList [rlpNat v.sourceNumber.toNat, rlpBytes v.sourceHash.bytes, rlpNat v.targetNumber.toNat,
    rlpBytes v.targetHash.bytes]

structure VoteAttestationData where
  voteAddressSet : UInt64
  aggSignature : BytesN 96
  data : VoteData
  extra : Bytes
  deriving DecidableEq

structure ValidatorInfo where
  address : H160
  blsPublicKey : BlsPublicKey
  deriving DecidableEq

structure ExtraData where
  extraVanity : Bytes := []
  validatorSize : UInt8 := 0
  validators : List ValidatorInfo := []
  extraSeal : Bytes := []
  aggSignature : BytesN 96 := BytesN.zero 96
  voteData : VoteData := ⟨0, BytesN.zero 32, 0, BytesN.zero 32⟩
  voteAddressSet : UInt64 := 0
  deriving DecidableEq

structure BscClientUpdate where
  sourceHeader : CodecHeader
  targetHeader : CodecHeader
  attestedHeader : CodecHeader
  epochHeaderAncestry : List CodecHeader

/-- `EPOCH_LENGTH`. -/
def epochLength : UInt64 := 200

structure Config where
  bohrForkTimestamp : UInt64
  keccak256 : Bytes → H256
  decodeAttestation : Bytes → Option VoteAttestationData

def indexPanic : Fault := .panic "slice index out of range"

def sliceFrom (data : Bytes) (index : Nat) : Except Fault Bytes :=
  if index ≤ data.length then .ok (data.drop index) else .error indexPanic

/-- `n` bytes as an array, or the panic of the conversion. -/
def arrayAt (data : Bytes) (index n : Nat) : Except Fault (BytesN n) :=
  if h : ((data.drop index).take n).length = n then .ok ⟨(data.drop index).take n, h⟩ else .error indexPanic

def validatorAt (data : Bytes) (i : Nat) : Except Fault ValidatorInfo := do
  let address ← arrayAt data (i * 68) 20
  let key ← arrayAt data (i * 68 + 20) 48
  pure ⟨address, key⟩

variable (C : Config)

def parseValidators (header : CodecHeader) (data : Bytes) (count : UInt8) :
    Except Fault (List ValidatorInfo × Bytes) := do
  let num := count.toNat
  if data.length < 1 + num * 68 then .error (.error "Parse validator failed")
  else do
    let remaining := data.drop 1
    let validators ← (List.range num).mapM (validatorAt remaining)
    let rest ← sliceFrom remaining (if C.bohrForkTimestamp ≤ header.timestamp then num * 68 + 1 else num * 68)
    pure (validators.mergeSort fun a b => decide (a.address.bytes ≤ b.address.bytes), rest)

def parseAttestation (data : Bytes) (extra : ExtraData) : Except Fault ExtraData :=
  if data = [] then pure extra
  else do
    let attestation ← okOr (C.decodeAttestation data) (.error "parse vote attestation failed")
    pure { extra with
      aggSignature := attestation.aggSignature
      voteData := attestation.data
      voteAddressSet := attestation.voteAddressSet }

/-- `parse_extra`. -/
def parseExtra (header : CodecHeader) : Except Fault ExtraData :=
  let data := header.extraData
  if data.length < 32 + 65 then .error (.error "Invalid extra data")
  else
    let extra : ExtraData := { extraVanity := data.take 32, extraSeal := data.drop (data.length - 65) }
    let data := (data.take (data.length - 65)).drop 32
    match data with
    | [] => pure extra
    | first :: _ =>
      -- an attestation begins with `f8`
      if first = 0xf8 then parseAttestation C data extra
      else do
        let (validators, rest) ← parseValidators C header data first
        parseAttestation C rest { extra with validatorSize := first, validators := validators }

end Hyperbridge.Bsc

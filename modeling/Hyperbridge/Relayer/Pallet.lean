import Hyperbridge.Ismp.EvmStateMachine
import Hyperbridge.Ismp.Substrate
import Hyperbridge.Lib.Abi

/-!
# Relayer fees

`pallet-ismp-relayer` keeps the fees relayers have earned. `accumulate` takes a list of commitments with two state
proofs: one shows the fees recorded for the commitments, the other the receipts with the relayers that delivered them.
Each fee is added to what its relayer has, and the commitments are then flagged as claimed.
-/

namespace Hyperbridge.Relayer

open Lib Exec Ismp

structure Storage where
  fees : StateMachine → Bytes → U256
  nonce : Bytes → StateMachine → UInt64
  minimumWithdrawalAmount : U256

inductive Error where
  | proofValidationError
  | invalidPublicKey
  | invalidSignature
  | emptyBalance
  | notEnoughBalance
  | mismatchedStateMachine
  | missingMangerAddress
  | dispatchFailed
  | errorCompletingCall
  | missingCommitments
  deriving DecidableEq

/-- A commitment as it is listed. -/
inductive Key where
  | request (commitment : H256)
  | response (requestCommitment responseCommitment : H256)
  deriving DecidableEq

def Key.account : Key → MessageCommitment
  | request c => .request c
  | response _ c => .response c

structure WithdrawalProof where
  commitments : List Key
  sourceProof : Proof
  destProof : Proof

def WithdrawalProof.source (proof : WithdrawalProof) : StateMachine := proof.sourceProof.height.id.stateId

def WithdrawalProof.dest (proof : WithdrawalProof) : StateMachine := proof.destProof.height.id.stateId

structure AccumulateFees where
  address : Bytes
  stateMachine : StateMachine
  amount : U256
  deriving DecidableEq

structure Config (Other : Type) where
  storage : Lens Other Storage
  decodeU256 : Bytes → Option U256
  decodeAddress : Bytes → Option H160
  decodeB256 : Bytes → Option H256
  decodeMetadata : Bytes → Option RequestMetadata
  decodeBytes : Bytes → Option Bytes
  decodeReceipt : Bytes → Option ResponseReceipt

variable {Other : Type} (T : Ismp.Config Other) (K : Config Other)

def feesOf (w : World Other) (stateMachine : StateMachine) (address : Bytes) : U256 :=
  (K.storage.get w.host.other).fees stateMachine address

/-- It is known and not claimed yet. -/
def unclaimed (h : Host Other) (account : MessageCommitment) : Bool :=
  match account.metadata h with
  | some leafMeta => !leafMeta.claimed
  | none => false

/-- `derive_unhashed_map_key`. -/
def deriveUnhashedMapKey (commitment : H256) (slot : Nat) : Bytes :=
  (T.keccak256 (commitment.bytes ++ beBytes 32 slot)).bytes

def responseReceiptStorageKey (c : H256) : Bytes := asBytes "ResponseReceipts" ++ c.bytes

variable (chain : StateMachine)

def keyOn {α : Type} (evm substrate : α → Bytes) (x : α) : Option Bytes :=
  if chain.isEvm then some (evm x) else if chain.isSubstrate then some (substrate x) else none

def evmCommitmentKey : MessageCommitment → Bytes
  | .request c => deriveUnhashedMapKey T c EvmCommon.requestCommitmentsSlot
  | .response c => deriveUnhashedMapKey T c EvmCommon.responseCommitmentsSlot

def substrateCommitmentKey : MessageCommitment → Bytes
  | .request c => Substrate.requestCommitmentStorageKey c
  | .response c => Substrate.responseCommitmentStorageKey c

def commitmentKey : MessageCommitment → Option Bytes := keyOn chain (evmCommitmentKey T) substrateCommitmentKey

def evmReceiptKey : Key → Bytes
  | .request c => deriveUnhashedMapKey T c EvmCommon.requestReceiptsSlot
  | .response c _ => deriveUnhashedMapKey T c EvmCommon.responseReceiptsSlot

def substrateReceiptKey : Key → Bytes
  | .request c => requestReceiptStorageKey c
  | .response c _ => responseReceiptStorageKey c

def receiptKey : Key → Option Bytes := keyOn chain (evmReceiptKey T) substrateReceiptKey

def getCommitmentKeys (commitments : List Key) : List Bytes :=
  commitments.filterMap fun key => commitmentKey T chain key.account

def getReceiptKeys (commitments : List Key) : List Bytes :=
  commitments.filterMap (receiptKey T chain)

def addOffSetToMapKey (key : Bytes) (offset : Nat) : Option H256 :=
  if beValue key + offset < 2 ^ 256 then some (BytesN.ofNat 32 (beValue key + offset)) else none

def slot2Key : Bytes × Key → Exec (World Other) Error (List Bytes)
  | (_, .request _) => pure []
  | (key, .response _ _) => do
      let slot2 ← expect U256.overflowText (addOffSetToMapKey key 1)
      pure [slot2.bytes]

variable (dest : StateMachine)

def slot2Keys (destKeys : List Bytes) (commitments : List Key) :
    Exec (World Other) Error (List Bytes) :=
  if dest.isEvm then do
    let keys ← collect slot2Key (destKeys.zip commitments)
    pure keys.flatten
  else pure []

/-- `verify_withdrawal_proof`. -/
def verifyWithdrawalProof (proof : Proof) (keys : List Bytes) :
    Exec (World Other) Error (List (Bytes × Option Bytes)) :=
  mapErr (fun _ => .proofValidationError) do
    let stateMachine ← reads (validateStateMachine T proof.height)
    let state ← reads fun h => h.stateMachineCommitment proof.height
    reads fun h => stateMachine.verifyStateProof h keys state proof

structure Verified where
  commitments : List Key
  sourceKeys : List Bytes
  destKeys : List Bytes
  sourceResult : List (Bytes × Option Bytes)
  destResult : List (Bytes × Option Bytes)
  deriving DecidableEq

def Verified.items (v : Verified) : List ((Key × Bytes) × Bytes) := (v.commitments.zip v.sourceKeys).zip v.destKeys

variable (proof : WithdrawalProof)

def verifyProofs : Exec (World Other) Error Verified := do
  let commitments ← gets fun w => proof.commitments.filter fun key => unclaimed w.host key.account
  throwIf commitments.isEmpty .missingCommitments
  let sourceKeys := getCommitmentKeys T proof.source commitments
  let destKeys := getReceiptKeys T proof.dest commitments
  let slot2Keys ← slot2Keys proof.dest destKeys commitments
  let sourceResult ← verifyWithdrawalProof T proof.sourceProof sourceKeys
  let destResult ← verifyWithdrawalProof T proof.destProof (destKeys ++ slot2Keys)
  pure ⟨commitments, sourceKeys, destKeys, sourceResult, destResult⟩

def valueAt (result : List (Bytes × Option Bytes)) (key : Bytes) : Option Bytes := (result.lookup key).join

/-- On a Substrate chain the fee is in the metadata. -/
def decodeFee (source : StateMachine) (encodedMetadata : Bytes) : Except Error U256 :=
  if source.isEvm then okOr (K.decodeU256 encodedMetadata) .proofValidationError
  else if source.isSubstrate then
    (fun metadata => BitVec.ofNat 256 metadata.fee.fee) <$> okOr
      (K.decodeMetadata encodedMetadata) .proofValidationError
  else .error .mismatchedStateMachine

def requestRelayer (encodedReceipt : Bytes) : Except Error Bytes :=
  if dest.isEvm then (·.bytes) <$> okOr (K.decodeAddress encodedReceipt) .proofValidationError
  else if dest.isSubstrate then okOr (K.decodeBytes encodedReceipt) .proofValidationError
  else .error .mismatchedStateMachine

variable (destResult : List (Bytes × Option Bytes))

def responseRelayer (destKey encodedReceipt : Bytes) :
    Exec (World Other) Error (Bytes × H256) :=
  if dest.isEvm then do
    let responseCommitment ← ofExcept (okOr (K.decodeB256 encodedReceipt) .proofValidationError)
    let slot2 ← expect U256.overflowText (addOffSetToMapKey destKey 1)
    let encodedAddress ← ofExcept (okOr (valueAt destResult slot2.bytes) .proofValidationError)
    let address ← ofExcept (okOr (K.decodeAddress encodedAddress) .proofValidationError)
    pure (address.bytes, responseCommitment)
  else if dest.isSubstrate then do
    let receipt ← ofExcept (okOr (K.decodeReceipt encodedReceipt) .proofValidationError)
    pure (receipt.relayer, receipt.response)
  else throw .mismatchedStateMachine

def relayerOf (key : Key) (destKey : Bytes) :
    Exec (World Other) Error Bytes := do
  let encodedReceipt ← ofExcept (okOr (valueAt destResult destKey) .proofValidationError)
  match key with
  | .request _ => ofExcept (requestRelayer K dest encodedReceipt)
  | .response _ responseCommitment => do
      let (relayer, res) ← responseRelayer K dest destResult destKey encodedReceipt
      throwIf (responseCommitment != res) .proofValidationError
      pure relayer

/-- What a turn credits to whom. -/
structure Credit where
  key : Key
  address : Bytes
  fee : U256
  deriving DecidableEq

/-- A fee that is not shown is passed over. -/
def creditFor (v : Verified) : (Key × Bytes) × Bytes → Exec (World Other) Error (Option Credit)
  | ((key, sourceKey), destKey) =>
      match valueAt v.sourceResult sourceKey with
      | none => pure none
      | some encodedMetadata => do
          let fee ← ofExcept (decodeFee K proof.source encodedMetadata)
          let address ← relayerOf K proof.dest v.destResult key destKey
          pure (some ⟨key, address, fee⟩)

/-- `none` where the sum overflows. -/
def addEntry (address : Bytes) (fee : U256) : List (Bytes × U256) → Option (List (Bytes × U256))
  | [] => some [(address, fee)]
  | (a, amount) :: entries =>
      if a = address then (fun sum => (a, sum) :: entries) <$> amount.checkedAdd fee
      else ((a, amount) :: ·) <$> addEntry address fee entries

/-- `validate_results`. -/
def validateResults (proof : WithdrawalProof) (v : Verified) :
    List ((Key × Bytes) × Bytes) → List (Bytes × U256) → List H256 →
      Exec (World Other) Error (List (Bytes × U256) × List H256)
  | [], result, commitments => pure (result, commitments)
  | item :: items, result, commitments => do
      match ← creditFor K proof v item with
      | none => validateResults proof v items result commitments
      | some credit => do
          let result ← expect U256.overflowText (addEntry credit.address credit.fee result)
          validateResults proof v items result (commitments ++ [credit.key.account.commitment])

def accumulateFee (stateMachine : StateMachine) (address : Bytes) (fee : U256) : Exec (World Other) Error Unit :=
  zoom (others.comp K.storage) do
    let inner ← gets fun s => s.fees stateMachine address
    let sum ← expect U256.overflowText (inner.checkedAdd fee)
    modify fun s =>
      { s with fees := Function.update s.fees stateMachine (Function.update (s.fees stateMachine) address sum) }

/-- The flag is set. -/
def claim (claimed : List H256) (h : Host Other) (account : MessageCommitment) : Host Other :=
  if claimed.contains account.commitment then
    match account.metadata h with
    | some leafMeta => account.insert { leafMeta with claimed := true } h
    | none => h
  else h

def claimAll (claimed : List H256) (commitments : List Key) (h : Host Other) : Host Other :=
  (commitments.map Key.account).foldl (claim claimed) h

/-- `accumulate`. -/
def accumulate : Exec (World Other) Error (List AccumulateFees) := do
  let v ← verifyProofs T proof
  let (result, claimed) ← validateResults K proof v v.items [] []
  forEach (fun entry => accumulateFee K proof.source entry.1 entry.2) result
  modify fun w => { w with host := claimAll claimed v.commitments w.host }
  pure (result.map fun entry => ⟨entry.1.take 32, proof.source, entry.2⟩)

end Hyperbridge.Relayer

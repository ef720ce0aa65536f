import Hyperbridge.Ismp.Messaging
import Hyperbridge.Lib.Lens
import Mathlib.Logic.Function.Basic

/-!
# The pallet's storage

`Host` is the storage of pallet-ismp, with `Other` for the rest of the runtime (balances, the mountain range, the
modules' own). `Config` is what the runtime supplies: the hash, the consensus clients, the currency, the router and its
modules. The functions are the `IsmpHost` implementation of the pallet under the names of that trait.

A module's callback is any computation over the world. Beside the host the world holds a log of the callbacks, which no
code reads: a run is judged by it.
-/

namespace Hyperbridge.Ismp

open Lib Exec

structure Meta where
  source : StateMachine
  dest : StateMachine
  nonce : UInt64
  deriving DecidableEq

def Meta.ofRequest (r : Request) : Meta := ⟨r.sourceChain, r.destChain, r.nonce⟩

def Meta.ofResponse (r : Response) : Meta := ⟨r.sourceChain, r.destChain, r.nonce⟩

inductive Error where
  | unbondingPeriodElapsed (consensusStateId : ConsensusStateId)
  | challengePeriodNotElapsed (stateMachineId : StateMachineId) (updateTime currentTime : Duration)
  | consensusStateNotFound (consensusStateId : ConsensusStateId)
  | stateCommitmentNotFound (height : StateMachineHeight)
  | frozenConsensusClient (consensusStateId : ConsensusStateId)
  | requestTimeoutNotElapsed (info : Meta) (timeoutTimestamp stateMachineTime : Duration)
  | insufficientProofHeight
  | membershipProofVerificationFailed (message : String)
  | custom (message : String)
  | consensusStateIdNotRecognized (consensusStateId : ConsensusStateId)
  | challengePeriodNotConfigured (stateMachine : StateMachineId)
  | unnbondingPeriodNotConfigured (consensusStateId : ConsensusStateId)
  | moduleDispatchError (message : String) (info : Meta)
  | unknownRequest (info : Meta)
  | unknownResponse (info : Meta)
  | unsolicitedResponse (info : Meta)
  | requestTimeout (info : Meta)
  | responseTimeout (response : Meta)
  | duplicateRequest (info : Meta)
  | duplicateResponse (info : Meta)
  | requestProofMetadataNotValid (info : Meta)
  | requestProxyProhibited (info : Meta)
  | responseProxyProhibited (info : Meta)
  | invalidRequestDestination (info : Meta)
  | invalidResponseType (info : Meta)
  | module (message : String)
  deriving DecidableEq

/-- `ismp::events::Event`. -/
inductive Event where
  | stateMachineUpdated (stateMachineId : StateMachineId) (latestHeight : UInt64)
  | postRequestHandled (commitment : H256) (relayer : Bytes)
  | postResponseHandled (commitment : H256) (relayer : Bytes)
  | postRequestTimeoutHandled (commitment : H256) (source dest : StateMachine)
  | postResponseTimeoutHandled (commitment : H256) (source dest : StateMachine)
  | getRequestHandled (commitment : H256) (relayer : Bytes)
  | getRequestTimeoutHandled (commitment : H256) (source dest : StateMachine)
  deriving DecidableEq

/-- `Debug` of a byte array. -/
def debugBytes (b : Bytes) : String := "[" ++ ", ".intercalate (b.map fun x => toString x.toNat) ++ "]"

def StateMachine.debug : StateMachine → String
  | evm id => "Evm(" ++ toString id.toNat ++ ")"
  | polkadot id => "Polkadot(" ++ toString id.toNat ++ ")"
  | kusama id => "Kusama(" ++ toString id.toNat ++ ")"
  | substrate id => "Substrate(" ++ debugBytes id.bytes ++ ")"
  | tendermint id => "Tendermint(" ++ debugBytes id.bytes ++ ")"

def StateMachineHeight.debug (h : StateMachineHeight) : String :=
  "StateMachineHeight \x7b id: StateMachineId \x7b state_id: " ++ h.id.stateId.debug
    ++ ", consensus_state_id: " ++ debugBytes h.id.consensusStateId.bytes ++ " \x7d, height: "
    ++ toString h.height.toNat ++ " \x7d"

structure FeeMetadata where
  payer : Bytes
  fee : Nat
  deriving DecidableEq

structure LeafIndexAndPos where
  leafIndex : UInt64
  pos : UInt64
  deriving DecidableEq

structure RequestMetadata where
  mmr : LeafIndexAndPos
  fee : FeeMetadata
  claimed : Bool
  deriving DecidableEq

structure ResponseReceipt where
  response : H256
  relayer : Bytes
  deriving DecidableEq

inductive Leaf where
  | request (request : Request)
  | response (response : Response)
  deriving DecidableEq

structure Host (Other : Type) where
  requestCommitments : H256 → Option RequestMetadata
  responseCommitments : H256 → Option RequestMetadata
  requestReceipts : H256 → Option Bytes
  responseReceipts : H256 → Option ResponseReceipt
  responded : H256 → Bool
  stateCommitments : StateMachineHeight → Option StateCommitment
  stateMachineUpdateTime : StateMachineHeight → Option UInt64
  latestStateMachineHeight : StateMachineId → Option UInt64
  challengePeriod : StateMachineId → Option UInt64
  consensusStates : ConsensusStateId → Option Bytes
  consensusStateClient : ConsensusStateId → Option ConsensusClientId
  consensusClientUpdateTime : ConsensusStateId → Option UInt64
  unbondingPeriod : ConsensusStateId → Option UInt64
  frozenConsensusClients : ConsensusStateId → Bool
  nonce : UInt64
  now : Duration
  other : Other

inductive Trace where
  | accepting (request : PostRequest) (receipted : Bool)
  | accepted (request : PostRequest) (ok : Bool)
  | responding (response : Response) (receipted : Bool)
  | responded (response : Response) (ok : Bool)
  | timingOut (timeout : Timeout)
  | timedOut (timeout : Timeout) (ok : Bool)
  deriving DecidableEq

structure World (Other : Type) where
  host : Host Other
  trace : List Trace

def others {Other : Type} : Lens (World Other) Other where
  get w := w.host.other
  set other w := { w with host := { w.host with other := other } }
  get_set _ _ := rfl
  set_get _ := rfl
  set_set _ _ _ := rfl

structure StateMachineClient (Other : Type) where
  verifyMembership : Host Other → RequestResponse → StateCommitment → Proof → Except Error Unit
  receiptsStateTrieKey : RequestResponse → List Bytes
  verifyStateProof : Host Other → List Bytes → StateCommitment → Proof →
    Except Error (List (Bytes × Option Bytes))

structure ConsensusClient (Other : Type) where
  consensusClientId : ConsensusClientId
  verifyConsensus : Host Other → ConsensusStateId → Bytes → Bytes →
    Except Error (Bytes × List (StateMachine × List StateCommitmentHeight))
  verifyFraudProof : Host Other → Bytes → Bytes → Bytes → Except Error Unit
  stateMachine : StateMachine → Except Error (StateMachineClient Other)

/-- `IsmpModule`: callbacks may do anything to the world. -/
structure IsmpModule (Other : Type) where
  onAccept : PostRequest → Exec (World Other) Error Unit
  onResponse : Response → Exec (World Other) Error Unit
  onTimeout : Timeout → Exec (World Other) Error Unit

structure Config (Other : Type) where
  hostStateMachine : StateMachine
  coprocessor : Option StateMachine
  keccak256 : Bytes → H256
  consensusClients : List (ConsensusClient Other)
  router : Bytes → Except Error (IsmpModule Other)
  relayerFeeAccount : Bytes
  transfer : Bytes → Bytes → Nat → Other → Except String Other
  mmrPush : Leaf → Other → LeafIndexAndPos × Other

abbrev Pallet (Other : Type) := Exec (World Other) Error

variable {Other : Type} (T : Config Other)

def reads {α : Type} (f : Host Other → Except Error α) : Pallet Other α := query fun w => f w.host

def writes (f : Host Other → Host Other) : Pallet Other Unit := modify fun w => { w with host := f w.host }

def note (t : Trace) : Pallet Other Unit := modify fun w => { w with trace := w.trace ++ [t] }

namespace Host

variable (h : Host Other)

def latestCommitmentHeight (id : StateMachineId) : UInt64 := (h.latestStateMachineHeight id).getD 0

def stateMachineCommitment (height : StateMachineHeight) : Except Error StateCommitment :=
  okOr (h.stateCommitments height) (.stateCommitmentNotFound height)

variable (id : ConsensusStateId)

def consensusUpdateTime : Except Error Duration :=
  okOr ((h.consensusClientUpdateTime id).map fromSecs)
    (.custom ("Update time not found for " ++ debugBytes id.bytes))

def updateTimeOf (height : StateMachineHeight) : Except Error Duration :=
  okOr ((h.stateMachineUpdateTime height).map fromSecs)
    (.custom ("Update time not found for " ++ height.debug))

def consensusState : Except Error Bytes :=
  okOr (h.consensusStates id) (.consensusStateNotFound id)

def isConsensusClientFrozen : Except Error Unit :=
  if h.frozenConsensusClients id then .error (.frozenConsensusClient id) else .ok ()

/-- `is_expired`: the unbonding period has passed. -/
def isExpired : Except Error Unit := do
  let unbondingPeriod ← okOr ((h.unbondingPeriod id).map fromSecs) (.unnbondingPeriodNotConfigured id)
  let lastUpdate ← h.consensusUpdateTime id
  if unbondingPeriod ≤ h.now - lastUpdate then .error (.unbondingPeriodElapsed id) else .ok ()

end Host

def consensusClient (id : ConsensusClientId) : Except Error (ConsensusClient Other) :=
  okOr (T.consensusClients.find? fun client => client.consensusClientId = id)
    (.custom ("Consensus client for id " ++ debugBytes id.bytes ++ " not found"))

def checkStateMachineClient (stateMachine : StateMachine) : Bool :=
  (T.consensusClients.findSome? fun client => (client.stateMachine stateMachine).toOption).isNone

def isAllowedProxy (source : StateMachine) : Bool := T.coprocessor = some source

def isRouter : Bool := T.coprocessor = some T.hostStateMachine

def displayPanic : String := "a Display implementation returned an error unexpectedly: Error"

variable (r : Request)

def requestHash : Pallet Other H256 := expect displayPanic (hashRequest T.keccak256 r)

def responseHash (r : Response) : Pallet Other H256 := expect displayPanic (hashResponse T.keccak256 r)

def storeRequestReceipt (signer : Bytes) : Pallet Other Unit := do
  let hash ← requestHash T r
  writes fun h => { h with requestReceipts := Function.update h.requestReceipts hash (some signer) }

def deleteRequestReceipt : Pallet Other Bytes := do
  let hash ← requestHash T r
  let relayer ← reads fun h => okOr (h.requestReceipts hash) (.custom "Request receipt not found")
  writes fun h => { h with requestReceipts := Function.update h.requestReceipts hash none }
  pure relayer

def storeResponseReceipt (r : Response) (signer : Bytes) : Pallet Other Unit := do
  let hash ← requestHash T r.request
  let response ← responseHash T r
  writes fun h =>
    { h with responseReceipts := Function.update h.responseReceipts hash (some ⟨response, signer⟩) }

def deleteResponseReceipt (r : Response) : Pallet Other Bytes := do
  let hash ← requestHash T r.request
  let receipt ← reads fun h => okOr (h.responseReceipts hash) (.custom "Response receipt not found")
  writes fun h => { h with responseReceipts := Function.update h.responseReceipts hash none }
  pure receipt.relayer

def deleteRequestCommitment : Pallet Other RequestMetadata := do
  let hash ← requestHash T r
  let metadata ← reads fun h => okOr (h.requestCommitments hash) (.custom "Request Commitment not found")
  writes fun h => { h with requestCommitments := Function.update h.requestCommitments hash none }
  pure metadata

def storeRequestCommitment (metadata : RequestMetadata) : Pallet Other Unit := do
  let hash ← requestHash T r
  writes fun h =>
    { h with requestCommitments := Function.update h.requestCommitments hash (some metadata) }

def deleteResponseCommitment (r : PostResponse) : Pallet Other RequestMetadata := do
  let reqCommitment ← requestHash T r.request
  let hash ← responseHash T (.post r)
  let metadata ← reads fun h => okOr (h.responseCommitments hash) (.custom "Response Commitment not found")
  writes fun h =>
    { h with
      responseCommitments := Function.update h.responseCommitments hash none
      responded := Function.update h.responded reqCommitment false }
  pure metadata

def storeResponseCommitment (r : PostResponse) (metadata : RequestMetadata) : Pallet Other Unit := do
  let hash ← responseHash T (.post r)
  let reqCommitment ← requestHash T r.request
  writes fun h =>
    { h with
      responseCommitments := Function.update h.responseCommitments hash (some metadata)
      responded := Function.update h.responded reqCommitment true }

/-- The fee recorded for the message. -/
def feeOf : Timeout → Pallet Other (Option FeeMetadata)
  | .request r => do
      let commitment ← requestHash T r
      reads fun h => .ok ((h.requestCommitments commitment).map (·.fee))
  | .response r => do
      let commitment ← responseHash T (.post r)
      reads fun h => .ok ((h.responseCommitments commitment).map (·.fee))

def transferFee (source target : Bytes) (amount : Nat) : Pallet Other Unit := do
  let other ← reads fun h =>
    match T.transfer source target amount h.other with
    | .ok other => .ok other
    | .error err => .error (.custom ("Error withdrawing request fees: " ++ err))
  writes fun h => { h with other := other }

def refundingModule (inner : IsmpModule Other) : IsmpModule Other where
  onAccept := inner.onAccept
  onResponse := inner.onResponse
  onTimeout timeout := do
    inner.onTimeout timeout
    match ← feeOf T timeout with
    | some fee => if 0 < fee.fee then transferFee T T.relayerFeeAccount fee.payer fee.fee else pure ()
    | none => pure ()

def moduleForId (id : Bytes) : Except Error (IsmpModule Other) := (T.router id).map (refundingModule T)

end Hyperbridge.Ismp

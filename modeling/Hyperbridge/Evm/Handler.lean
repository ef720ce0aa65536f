import Hyperbridge.Evm.Host

/-!
# The message handler

`HandlerV1` checks messages against stored state commitments and hands them to the host one by one. `Entry` lists what
can be called from outside. A `Transaction` is one call with all that happens in it: the entry, who makes it, and for
every external call a `Reaction`, the transactions the contract called makes in its turn and whether it then reverts.
What reverts leaves no trace.
-/

namespace Hyperbridge.Evm

open Lib Exec
open Beefy (StateCommitment IntermediateState MmrLeaf)

structure Proof where
  height : StateMachineHeight
  multiproof : List H256
  leafCount : U256
  deriving DecidableEq

structure PostRequestLeaf where
  request : PostRequest
  index : U256
  kIndex : U256
  deriving DecidableEq

structure PostResponseLeaf where
  response : PostResponse
  index : U256
  kIndex : U256
  deriving DecidableEq

structure GetResponseLeaf where
  response : GetResponse
  index : U256
  kIndex : U256
  deriving DecidableEq

structure PostRequestMessage where
  proof : Proof
  requests : List PostRequestLeaf
  deriving DecidableEq

structure PostResponseMessage where
  proof : Proof
  responses : List PostResponseLeaf
  deriving DecidableEq

structure GetResponseMessage where
  proof : Proof
  responses : List GetResponseLeaf
  deriving DecidableEq

/-- The three timeout messages, by what times out. -/
structure TimeoutMessage (α : Type) where
  timeouts : List α
  height : StateMachineHeight
  proof : List Bytes
  deriving DecidableEq

variable (L : Libraries) (b : Block)

/-- The modifier of the handler's functions. -/
def notFrozen (h : Host) : Call Unit :=
  revertIf (h.frozen = .incoming ∨ h.frozen = .all) (.error "HostFrozen")

/-- The state commitment is older than the challenge period. -/
def challengePeriodElapsed (height : StateMachineHeight) (h : Host) : Call Unit := do
  let delay ← U256.sub b.timestamp (h.stateCommitmentsUpdateTime height)
  revertIf (h.hostParams.challengePeriod ≠ 0 ∧ delay < h.hostParams.challengePeriod)
    (.error "ChallengePeriodNotElapsed")

/-- The messages are leaves of the mountain range. -/
def verifyLeaves (proof : Proof) (leaves : List MmrLeaf) (h : Host) : Call Unit := do
  let root := (h.stateCommitments proof.height).overlayRoot
  revertIf (root = BytesN.zero 32) (.error "StateCommitmentNotFound")
  let valid ← L.verifyProof root proof.multiproof leaves proof.leafCount
  revertIf (valid = false) (.error "InvalidProof")

/-- The loop body of the first pass of `handlePostRequests`. -/
def checkPostRequest (h : Host) (leaf : PostRequestLeaf) : Call MmrLeaf := do
  revertIf (leaf.request.dest ≠ L.evm b.chainid) (.error "InvalidMessageDestination")
  revertIf (timeout leaf.request.timeoutTimestamp ≤ b.timestamp) (.error "MessageTimedOut")
  let commitment := L.hashPost leaf.request
  revertIf (hasRequestReceipt commitment h = true) (.error "DuplicateMessage")
  pure ⟨leaf.kIndex, leaf.index, commitment⟩

def checkPostResponse (h : Host) (leaf : PostResponseLeaf) : Call MmrLeaf := do
  revertIf (timeout leaf.response.timeoutTimestamp ≤ b.timestamp) (.error "MessageTimedOut")
  let metadata := h.requestCommitments (L.hashPost leaf.response.request)
  revertIf (metadata.sender = BytesN.zero 20) (.error "InvalidProof")
  let commitment := L.hashPostResponse leaf.response
  revertIf (hasResponseReceipt commitment h = true) (.error "DuplicateMessage")
  pure ⟨leaf.kIndex, leaf.index, commitment⟩

def checkGetResponse (h : Host) (leaf : GetResponseLeaf) : Call MmrLeaf := do
  let requestCommitment := L.hashGet leaf.response.request
  let metadata := h.requestCommitments requestCommitment
  revertIf (metadata.sender = BytesN.zero 20) (.error "UnknownMessage")
  revertIf (hasResponseReceipt requestCommitment h = true) (.error "DuplicateMessage")
  pure ⟨leaf.kIndex, leaf.index, L.hashGetResponse leaf.response⟩

/-- The first pass over a batch, which checks all of it. -/
def checkBatch {α : Type} (proof : Proof) (check : Host → α → Call MmrLeaf) (items : List α) (h : Host) :
    Call Unit := do
  notFrozen h
  challengePeriodElapsed b proof.height h
  let leaves ← items.mapM (check h)
  verifyLeaves L proof leaves h

def withModules {α : Type} : List α → List Module → List (α × Module)
  | [], _ => []
  | a :: as, [] => (a, .noCode) :: withModules as []
  | a :: as, m :: ms => (a, m) :: withModules as ms

def handlePostRequests (caller : H160) (message : PostRequestMessage) (ms : List Module) : Code Unit := do
  checks (checkBatch L b message.proof (checkPostRequest L b) message.requests)
  forEach (fun am => dispatchIncomingPost L am.1.request caller am.2) (withModules message.requests ms)

def handlePostResponses (caller : H160) (message : PostResponseMessage) (ms : List Module) : Code Unit := do
  checks (checkBatch L b message.proof (checkPostResponse L b) message.responses)
  forEach (fun am => dispatchIncomingResponse L am.1.response caller am.2) (withModules message.responses ms)

def handleGetResponses (caller : H160) (message : GetResponseMessage) (ms : List Module) : Code Unit := do
  checks (checkBatch L b message.proof (checkGetResponse L) message.responses)
  forEach (fun am => dispatchIncomingGet L am.1.response caller am.2) (withModules message.responses ms)

def requestReceiptsStorage : Bytes :=
  [0x52, 0x65, 0x71, 0x75, 0x65, 0x73, 0x74, 0x52, 0x65, 0x63, 0x65, 0x69, 0x70, 0x74, 0x73]

def responseReceiptsStorage : Bytes :=
  [0x52, 0x65, 0x73, 0x70, 0x6f, 0x6e, 0x73, 0x65, 0x52, 0x65, 0x63, 0x65, 0x69, 0x70, 0x74, 0x73]

def verifyAbsent (root : H256) (proof : List Bytes) (i : Nat) (key : Bytes) : Call Unit := do
  revertIf (1 ≤ i) (.panic 0x32)
  let values ← L.verifySubstrateProof root proof [key]
  match values with
  | [] => .error (.panic 0x32)
  | entry :: _ => revertIf (entry.value ≠ []) (.error "InvalidProof")

variable (state : StateCommitment) (proof : List Bytes)

def checkTimeout (i : Nat) (timeoutTimestamp : UInt64)
    (storage : Bytes) (commitment : H256) (sent : Host → H256 → FeeMetadata) (h : Host) : Call FeeMetadata := do
  revertIf (state.timestamp < timeout timeoutTimestamp) (.error "MessageNotTimedOut")
  let metadata := sent h commitment
  revertIf (metadata.sender = BytesN.zero 20) (.error "UnknownMessage")
  verifyAbsent L state.stateRoot proof i (storage ++ commitment.bytes)
  pure metadata

def timeOutPost (i : Nat) (request : PostRequest)
    (m refund : Module) : Code Unit := do
  let metadata ← checks (checkTimeout L state proof i request.timeoutTimestamp requestReceiptsStorage
    (L.hashPost request) (·.requestCommitments))
  note (.timingOut (.onPostRequestTimeout request) state)
  dispatchTimeOutPost request metadata (L.hashPost request) m refund

def timeOutResponse (i : Nat) (response : PostResponse)
    (m refund : Module) : Code Unit := do
  let metadata ← checks (checkTimeout L state proof i response.timeoutTimestamp responseReceiptsStorage
    (L.hashPostResponse response) (·.responseCommitments))
  note (.timingOut (.onPostResponseTimeout response) state)
  dispatchTimeOutResponse L response metadata (L.hashPostResponse response) m refund

def timeOutGet (i : Nat) (request : GetRequest)
    (m refund : Module) : Code Unit := do
  let metadata ← checks (checkTimeout L state proof i request.timeoutTimestamp requestReceiptsStorage
    (L.hashGet request) (·.requestCommitments))
  note (.timingOut (.onGetTimeout request) state)
  dispatchTimeOutGet request metadata (L.hashGet request) m refund

/-- The state commitment a batch of timeouts is judged by. -/
def timeoutState (height : StateMachineHeight) (h : Host) : Call StateCommitment := do
  notFrozen h
  challengePeriodElapsed b height h
  let state := h.stateCommitments height
  revertIf (state.stateRoot = BytesN.zero 32) (.error "StateCommitmentNotFound")
  pure state

/-- The loop of the three functions that time out batches. -/
def handleTimeouts {α : Type} (message : TimeoutMessage α)
    (body : StateCommitment → List Bytes → Nat → α → Module → Module → Code Unit) (ms refunds : List Module) :
    Code Unit := do
  let state ← checks (timeoutState b message.height)
  forEach (fun a => body state message.proof a.2 a.1.1.1 a.1.1.2 a.1.2)
    (withModules (withModules message.timeouts ms) refunds).zipIdx

def handlePostRequestTimeouts (message : TimeoutMessage PostRequest) (ms refunds : List Module) : Code Unit :=
  handleTimeouts b message (timeOutPost L) ms refunds

def handlePostResponseTimeouts (message : TimeoutMessage PostResponse) (ms refunds : List Module) : Code Unit :=
  handleTimeouts b message (timeOutResponse L) ms refunds

def handleGetRequestTimeouts (message : TimeoutMessage GetRequest) (ms refunds : List Module) : Code Unit :=
  handleTimeouts b message (timeOutGet L) ms refunds

def verifyUpdate (proof : Bytes) (h : Host) : Call (Bytes × List IntermediateState) := do
  notFrozen h
  let delay ← U256.sub b.timestamp h.consensusUpdateTimestamp
  revertIf (h.hostParams.unStakingPeriod ≤ delay) (.error "ConsensusClientExpired")
  b.verifyConsensus h.consensusState proof

def storeIntermediate (intermediate : IntermediateState) : Code Unit := do
  let latest ← reads (·.latestStateMachineHeight intermediate.stateMachineId)
  if latest ≠ 0 ∧ latest < intermediate.height then
    storeStateMachineCommitment b ⟨intermediate.stateMachineId, intermediate.height⟩ intermediate.commitment
  else pure ()

def handleConsensus (proof : Bytes) : Code Unit := do
  let verified ← checks (verifyUpdate b proof)
  storeConsensusState b verified.1
  forEach (storeIntermediate b) verified.2

/-- What can be called from outside. -/
inductive Entry where
  | handleConsensus (proof : Bytes)
  | handlePostRequests (message : PostRequestMessage)
  | handlePostResponses (message : PostResponseMessage)
  | handleGetResponses (message : GetResponseMessage)
  | handlePostRequestTimeouts (message : TimeoutMessage PostRequest)
  | handlePostResponseTimeouts (message : TimeoutMessage PostResponse)
  | handleGetRequestTimeouts (message : TimeoutMessage GetRequest)
  | dispatchPost (post : DispatchPost)
  | dispatchGet (get : DispatchGet)
  | dispatchPostResponse (post : DispatchPostResponse)
  | fundRequest (commitment : H256) (amount : U256)
  | fundResponse (commitment : H256) (amount : U256)
  | setFrozenState (status : FrozenStatus)
  deriving DecidableEq

def paying {α : Type} (transfers : List Module) (f : Module → Code α) : Code Unit := do
  let _ ← f (transfers.headD .noCode)
  pure ()

/-- What the call of an entry runs. -/
def Entry.exec (caller : H160) (ms transfers : List Module) : Entry → Code Unit
  | handleConsensus proof => Evm.handleConsensus b proof
  | handlePostRequests message => Evm.handlePostRequests L b caller message ms
  | handlePostResponses message => Evm.handlePostResponses L b caller message ms
  | handleGetResponses message => Evm.handleGetResponses L b caller message ms
  | handlePostRequestTimeouts message => Evm.handlePostRequestTimeouts L b message ms transfers
  | handlePostResponseTimeouts message => Evm.handlePostResponseTimeouts L b message ms transfers
  | handleGetRequestTimeouts message => Evm.handleGetRequestTimeouts L b message ms transfers
  | dispatchPost post => paying transfers (Evm.dispatchPost L b caller post)
  | dispatchGet get => paying transfers (Evm.dispatchGet L b caller get)
  | dispatchPostResponse post => paying transfers (Evm.dispatchPostResponse L b caller post)
  | fundRequest commitment amount => paying transfers (Evm.fundRequest commitment amount)
  | fundResponse commitment amount => paying transfers (Evm.fundResponse commitment amount)
  | setFrozenState status => Evm.setFrozenState caller status

/-- An account that makes calls; the zero address does not. -/
structure Account where
  address : H160
  nonzero : address ≠ BytesN.zero 20

mutual

inductive Transaction where
  | mk (caller : Account) (entry : Entry) (calls transfers : List Reaction)

inductive Reaction where
  | noCode
  | reacts (transactions : List Transaction) (success : Bool)

end

mutual

/-- What reverts changes nothing. -/
def Transaction.run : Transaction → World → World
  | .mk caller entry calls transfers, w =>
    match (entry.exec L b caller.address (modules calls) (modules transfers)).run w with
    | (.ok _, w') => w'
    | _ => w

def Reaction.module : Reaction → Module
  | .noCode => Module.noCode
  | .reacts transactions success =>
    ⟨true, fun w => if success then (runAll transactions w, true) else (w, false)⟩

def modules : List Reaction → List Module
  | [] => []
  | reaction :: reactions => reaction.module :: modules reactions

def runAll : List Transaction → World → World
  | [], w => w
  | transaction :: transactions, w => runAll transactions (transaction.run w)

end

/-- Transactions one after the other, each in its block. -/
def runChain : List (Block × Transaction) → World → World
  | [], w => w
  | (block, transaction) :: rest, w => runChain rest (transaction.run L block w)

end Hyperbridge.Evm

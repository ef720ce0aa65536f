import Hyperbridge.Beefy.Codec
import Mathlib.Logic.Function.Basic

/-!
# The EVM host

`Host` is the storage of `EvmHost`, `World` adds a log of calls, fee token transfers and events, which no code reads.
The functions are those that move messages: what `HandlerV1` calls and what anybody calls. Functions under
`restrict(handler)` are only run by the handler; other calls revert.

An external call is a `Module`: any function on the world, with the flag the call comes back with. In `Handler` the
contracts called may call the host again.
-/

namespace Hyperbridge.Evm

open Lib Exec
open Beefy (StateCommitment IntermediateState MmrLeaf)

structure PostRequest where
  source : Bytes
  dest : Bytes
  nonce : UInt64
  fromModule : Bytes
  toModule : Bytes
  timeoutTimestamp : UInt64
  body : Bytes
  deriving DecidableEq

structure GetRequest where
  source : Bytes
  dest : Bytes
  nonce : UInt64
  fromModule : H160
  timeoutTimestamp : UInt64
  keys : List Bytes
  height : UInt64
  context : Bytes
  deriving DecidableEq

structure PostResponse where
  request : PostRequest
  response : Bytes
  timeoutTimestamp : UInt64
  deriving DecidableEq

structure StorageValue where
  key : Bytes
  value : Bytes
  deriving DecidableEq

structure GetResponse where
  request : GetRequest
  values : List StorageValue
  deriving DecidableEq

/-- `Message.timeout()`: zero stands for no timeout. -/
def timeout (timeoutTimestamp : UInt64) : U256 :=
  if timeoutTimestamp = 0 then .ofNat 256 (2 ^ 64 - 1) else .ofNat 256 timeoutTimestamp.toNat

structure StateMachineHeight where
  stateMachineId : U256
  height : U256
  deriving DecidableEq

structure Libraries where
  chainId : U256
  keccak256 : Bytes → H256
  hashPost : PostRequest → H256
  hashGet : GetRequest → H256
  hashPostResponse : PostResponse → H256
  hashGetResponse : GetResponse → H256
  evm : U256 → Bytes
  verifyProof : H256 → List H256 → List MmrLeaf → U256 → Call Bool
  verifySubstrateProof : H256 → List Bytes → List Bytes → Call (List StorageValue)

structure Block where
  timestamp : U256
  chainid : U256
  verifyConsensus : Bytes → Bytes → Call (Bytes × List IntermediateState)

structure FeeMetadata where
  sender : H160
  fee : U256
  deriving DecidableEq

def FeeMetadata.none : FeeMetadata := ⟨BytesN.zero 20, 0⟩

structure ResponseReceipt where
  relayer : H160
  responseCommitment : H256
  deriving DecidableEq

def ResponseReceipt.none : ResponseReceipt := ⟨BytesN.zero 20, BytesN.zero 32⟩

inductive FrozenStatus where
  | none
  | incoming
  | outgoing
  | all
  deriving DecidableEq

structure HostParams where
  defaultTimeout : U256
  defaultPerByteFee : U256
  admin : H160
  handler : H160
  unStakingPeriod : U256
  challengePeriod : U256
  hyperbridge : Bytes
  deriving DecidableEq

structure Host where
  requestCommitments : H256 → FeeMetadata := fun _ => .none
  responseCommitments : H256 → FeeMetadata := fun _ => .none
  requestReceipts : H256 → H160 := fun _ => BytesN.zero 20
  responseReceipts : H256 → ResponseReceipt := fun _ => .none
  responded : H256 → Bool := fun _ => false
  stateCommitments : StateMachineHeight → StateCommitment := fun _ => ⟨0, BytesN.zero 32, BytesN.zero 32⟩
  stateCommitmentsUpdateTime : StateMachineHeight → U256 := fun _ => 0
  latestStateMachineHeight : U256 → U256 := fun _ => 0
  perByteFees : H256 → U256 := fun _ => 0
  hostParams : HostParams
  nonce : U256 := 0
  frozen : FrozenStatus := .none
  consensusState : Bytes := []
  consensusUpdateTimestamp : U256 := 0

inductive Callback where
  | onAccept (request : PostRequest)
  | onPostResponse (response : PostResponse)
  | onGetResponse (response : GetResponse)
  | onPostRequestTimeout (request : PostRequest)
  | onPostResponseTimeout (response : PostResponse)
  | onGetTimeout (request : GetRequest)
  deriving DecidableEq

inductive Event where
  | postRequestHandled (commitment : H256) (relayer : H160)
  | postResponseHandled (commitment : H256) (relayer : H160)
  | getRequestHandled (commitment : H256) (relayer : H160)
  | postRequestTimeoutHandled (commitment : H256) (dest : Bytes)
  | postResponseTimeoutHandled (commitment : H256) (dest : Bytes)
  | getRequestTimeoutHandled (commitment : H256) (dest : Bytes)
  | stateMachineUpdated (stateMachineId : Bytes) (height : U256)
  | postRequestEvent (request : PostRequest) (fee : U256)
  | getRequestEvent (request : GetRequest) (fee : U256)
  | postResponseEvent (response : PostResponse) (caller : H160) (fee : U256)
  | requestFunded (commitment : H256) (newFee : U256)
  | postResponseFunded (commitment : H256) (newFee : U256)
  | hostFrozen (status : FrozenStatus)
  deriving DecidableEq

inductive Trace where
  | delivering (callback : Callback) (receipted : Bool)
  | timingOut (callback : Callback) (state : StateCommitment)
  | called (callback : Callback) (success : Bool)
  | collected (amount : U256)
  | refunded (payer : FeeMetadata)
  | emitted (event : Event)
  deriving DecidableEq

structure World where
  host : Host
  trace : List Trace

abbrev Code := Exec World Revert

structure Module where
  hasCode : Bool
  call : World → World × Bool

def Module.noCode : Module := ⟨false, fun w => (w, true)⟩

def writes (f : Host → Host) : Code Unit := modify fun w => ⟨f w.host, w.trace⟩

def reads {α : Type} (f : Host → α) : Code α := gets fun w => f w.host

def checks {α : Type} (f : Host → Call α) : Code α := query fun w => f w.host

def note (t : Trace) : Code Unit := modify fun w => ⟨w.host, w.trace ++ [t]⟩

def emit (e : Event) : Code Unit := note (.emitted e)

def callModule (m : Module) : Code Bool := ⟨fun w => (.ok (m.call w).2, (m.call w).1)⟩

/-- A call under `require(success)`. -/
def mustCall (m : Module) : Code Unit := do
  let success ← callModule m
  throwIf (!success) (.require "")

def bytesToAddress (b : Bytes) : Call H160 :=
  if h : b.length = 20 then .ok ⟨b, h⟩ else .error (.error "InvalidAddressLength")

variable (L : Libraries) (b : Block)

variable (callback : Callback)

def deliver (receipted : Host → Bool) (mark unmark : Host → Host) (event : Event)
    (m : Module) : Code Unit := do
  let before ← reads receipted
  note (.delivering callback before)
  writes mark
  let success ← callModule m
  note (.called callback success)
  if success then emit event else writes unmark

theorem deliver_host (receipted : Host → Bool) (mark unmark : Host → Host) (event : Event)
    (m : Module) (w : World) :
    let called := m.call ⟨mark w.host, w.trace ++ [.delivering callback (receipted w.host)]⟩
    ∃ w', (deliver callback receipted mark unmark event m).run w = (.ok (), w') ∧
      w'.host = if called.2 then called.1.host else unmark called.1.host := by
  intro called
  have hrun : (deliver callback receipted mark unmark event m).run w =
      (note (.called callback called.2) >>= fun _ => if called.2 then emit event else writes unmark).run called.1 := rfl
  rw [hrun]
  cases called.2 <;> exact ⟨_, rfl, rfl⟩

variable (commitment : H256)

def setRequestReceipt (relayer : H160) (h : Host) : Host :=
  { h with requestReceipts := Function.update h.requestReceipts commitment relayer }

def setResponseReceipt (receipt : ResponseReceipt) (h : Host) : Host :=
  { h with responseReceipts := Function.update h.responseReceipts commitment receipt }

def hasRequestReceipt (h : Host) : Bool :=
  decide (h.requestReceipts commitment ≠ BytesN.zero 20)

def hasResponseReceipt (h : Host) : Bool :=
  decide ((h.responseReceipts commitment).relayer ≠ BytesN.zero 20)

def dispatchIncomingPost (request : PostRequest) (relayer : H160) (m : Module) : Code Unit := do
  let _ ← ofExcept (bytesToAddress request.toModule)
  if m.hasCode then
    let commitment := L.hashPost request
    deliver (.onAccept request) (hasRequestReceipt commitment) (setRequestReceipt commitment relayer)
      (setRequestReceipt commitment (BytesN.zero 20)) (.postRequestHandled commitment relayer) m
  else pure ()

def dispatchIncomingResponse (response : PostResponse) (relayer : H160) (m : Module) : Code Unit := do
  let _ ← ofExcept (bytesToAddress response.request.fromModule)
  let requestCommitment := L.hashPost response.request
  let responseCommitment := L.hashPostResponse response
  deliver (.onPostResponse response) (hasResponseReceipt requestCommitment)
    (setResponseReceipt requestCommitment ⟨relayer, responseCommitment⟩)
    (setResponseReceipt requestCommitment .none) (.postResponseHandled responseCommitment relayer) m

def dispatchIncomingGet (response : GetResponse) (relayer : H160) (m : Module) : Code Unit :=
  let commitment := L.hashGet response.request
  deliver (.onGetResponse response) (hasResponseReceipt commitment)
    (setResponseReceipt commitment ⟨relayer, BytesN.zero 32⟩) (setResponseReceipt commitment .none)
    (.getRequestHandled commitment relayer) m

def settleTimeOut (restore : Host → Host) (metadata : FeeMetadata) (event : Event) (refund : Module)
    (success : Bool) : Code Unit := do
  if success then
    if metadata.fee ≠ 0 then
      note (.refunded metadata)
      mustCall refund
      emit event
    else emit event
  else writes restore

def timeOut (remove restore : Host → Host) (metadata : FeeMetadata) (event : Event)
    (m refund : Module) : Code Unit := do
  writes remove
  let success ← callModule m
  note (.called callback success)
  settleTimeOut restore metadata event refund success

variable (metadata : FeeMetadata)

def setRequestCommitment (h : Host) : Host :=
  { h with requestCommitments := Function.update h.requestCommitments commitment metadata }

def setResponseCommitment (h : Host) : Host :=
  { h with responseCommitments := Function.update h.responseCommitments commitment metadata }

def setResponded (responded : Bool) (h : Host) : Host :=
  { h with responded := Function.update h.responded commitment responded }

def dispatchTimeOutGet (request : GetRequest) (metadata : FeeMetadata) (commitment : H256) (m refund : Module) :
    Code Unit :=
  timeOut (.onGetTimeout request) (setRequestCommitment commitment .none)
    (setRequestCommitment commitment metadata) metadata (.getRequestTimeoutHandled commitment request.dest) m refund

def dispatchTimeOutPost (request : PostRequest) (metadata : FeeMetadata) (commitment : H256)
    (m refund : Module) : Code Unit := do
  let _ ← ofExcept (bytesToAddress request.fromModule)
  timeOut (.onPostRequestTimeout request) (setRequestCommitment commitment .none)
    (setRequestCommitment commitment metadata) metadata (.postRequestTimeoutHandled commitment request.dest)
    m refund

def dispatchTimeOutResponse (response : PostResponse) (metadata : FeeMetadata) (commitment : H256)
    (m refund : Module) : Code Unit := do
  let _ ← ofExcept (bytesToAddress response.request.toModule)
  let reqCommitment := L.hashPost response.request
  timeOut (.onPostResponseTimeout response)
    (fun h => setResponded reqCommitment false (setResponseCommitment commitment .none h))
    (fun h => setResponded reqCommitment true (setResponseCommitment commitment metadata h)) metadata
    (.postResponseTimeoutHandled commitment response.request.source) m refund

structure DispatchPost where
  dest : Bytes
  toModule : Bytes
  body : Bytes
  timeout : UInt64
  fee : U256
  payer : H160
  deriving DecidableEq

structure DispatchGet where
  dest : Bytes
  height : UInt64
  keys : List Bytes
  timeout : UInt64
  fee : U256
  context : Bytes
  deriving DecidableEq

structure DispatchPostResponse where
  request : PostRequest
  response : Bytes
  timeout : UInt64
  fee : U256
  payer : H160
  deriving DecidableEq

def notFrozenOutgoing (h : Host) : Call Unit :=
  revertIf (h.frozen = .outgoing ∨ h.frozen = .all) (.error "FrozenHost")

def perByteFee (stateId : Bytes) (h : Host) : U256 :=
  let overridden := h.perByteFees (L.keccak256 stateId)
  if overridden = 0 then h.hostParams.defaultPerByteFee else overridden

def messageFee (dest : Bytes) (length : Nat) (relayerFee : U256) (h : Host) : Call U256 := do
  let charge ← U256.mul (perByteFee L dest h) (.ofNat 256 (max 32 length))
  U256.add charge relayerFee

/-- Payment through the router, or from the caller's tokens. -/
def collectFee (fee : U256) (payment : Module) : Code Unit := do
  note (.collected fee)
  mustCall payment

def lapse (timeout : UInt64) (h : Host) : Call UInt64 :=
  let given : U256 := .ofNat 256 timeout.toNat
  let chosen := if given < h.hostParams.defaultTimeout then h.hostParams.defaultTimeout else given
  if timeout = 0 then .ok 0 else addUint64 b.timestamp.toUint64 chosen.toUint64

def nextNonce : Code U256 := do
  let nonce ← reads (·.nonce)
  writes fun h => { h with nonce := h.nonce + 1 }
  pure nonce

variable (caller : H160)

def dispatchPost (post : DispatchPost) (payment : Module) : Code H256 := do
  checks notFrozenOutgoing
  let fee ← checks (messageFee L post.dest post.body.length post.fee)
  collectFee fee payment
  let timeoutTimestamp ← checks (lapse b post.timeout)
  let nonce ← nextNonce
  let request : PostRequest := ⟨L.evm b.chainid, post.dest, nonce.toUint64, caller.bytes, post.toModule,
    timeoutTimestamp, post.body⟩
  writes (setRequestCommitment (L.hashPost request) ⟨post.payer, post.fee⟩)
  emit (.postRequestEvent request post.fee)
  pure (L.hashPost request)

def getFee (get : DispatchGet) (h : Host) : Call U256 := do
  let perByte := perByteFee L (L.evm b.chainid) h
  let minimumFee ← U256.mul 32 perByte
  let charge ← U256.mul perByte (.ofNat 256 get.context.length)
  let totalFee ← U256.add get.fee charge
  pure (if totalFee < minimumFee then minimumFee else totalFee)

def dispatchGet (get : DispatchGet) (payment : Module) : Code H256 := do
  checks notFrozenOutgoing
  let fee ← checks (getFee L b get)
  collectFee fee payment
  let timeoutTimestamp ← checks (lapse b get.timeout)
  let nonce ← nextNonce
  let request : GetRequest := ⟨L.evm b.chainid, get.dest, nonce.toUint64, caller, timeoutTimestamp, get.keys,
    get.height, get.context⟩
  writes (setRequestCommitment (L.hashGet request) ⟨caller, fee⟩)
  emit (.getRequestEvent request fee)
  pure (L.hashGet request)

def mayRespond (post : DispatchPostResponse) (h : Host) : Call Unit := do
  let receipt := L.hashPost post.request
  revertIf (h.requestReceipts receipt = BytesN.zero 20) (.error "UnknownRequest")
  let recipient ← bytesToAddress post.request.toModule
  revertIf (recipient ≠ caller) (.error "UnauthorizedResponse")
  revertIf (h.responded receipt = true) (.error "DuplicateResponse")

def dispatchPostResponse (post : DispatchPostResponse) (payment : Module) : Code H256 := do
  checks notFrozenOutgoing
  checks (mayRespond L caller post)
  let fee ← checks (messageFee L post.request.source post.response.length post.fee)
  collectFee fee payment
  let timeoutTimestamp ← checks (lapse b post.timeout)
  let response : PostResponse := ⟨post.request, post.response, timeoutTimestamp⟩
  writes (setResponseCommitment (L.hashPostResponse response) ⟨post.payer, post.fee⟩)
  writes (setResponded (L.hashPost post.request) true)
  emit (.postResponseEvent response caller post.fee)
  pure (L.hashPostResponse response)

/-- The entry of a known message with more fee. -/
def funded (amount : U256) (unknown : Revert) : Call FeeMetadata := do
  revertIf (metadata.sender = BytesN.zero 20) unknown
  let fee ← U256.add metadata.fee amount
  pure { metadata with fee := fee }

def fundRequest (amount : U256) (payment : Module) : Code Unit := do
  collectFee amount payment
  let metadata ← checks fun h => funded (h.requestCommitments commitment) amount (.error "UnknownRequest")
  writes (setRequestCommitment commitment metadata)
  emit (.requestFunded commitment metadata.fee)

def fundResponse (amount : U256) (payment : Module) : Code Unit := do
  collectFee amount payment
  let metadata ← checks fun h => funded (h.responseCommitments commitment) amount (.error "UnknownResponse")
  writes (setResponseCommitment commitment metadata)
  emit (.postResponseFunded commitment metadata.fee)

def storeConsensusState (state : Bytes) : Code Unit :=
  writes fun h => { h with consensusState := state, consensusUpdateTimestamp := b.timestamp }

def stateMachineId (hyperbridge : Bytes) (id : U256) : Call Bytes := do
  revertIf (hyperbridge.length < 4) U256.overflow
  pure (hyperbridge.take (hyperbridge.length - 4) ++ decimal id.toNat)

def storeStateMachineCommitment (height : StateMachineHeight) (commitment : StateCommitment) : Code Unit := do
  writes fun h => { h with
    stateCommitments := Function.update h.stateCommitments height commitment
    stateCommitmentsUpdateTime := Function.update h.stateCommitmentsUpdateTime height b.timestamp
    latestStateMachineHeight := Function.update h.latestStateMachineHeight height.stateMachineId height.height }
  let id ← checks fun h => stateMachineId h.hostParams.hyperbridge height.stateMachineId
  emit (.stateMachineUpdated id height.height)

def setConsensusState (state : Bytes) (height : StateMachineHeight)
    (commitment : StateCommitment) : Code Unit := do
  checks fun h => revertIf (caller ≠ h.hostParams.admin) (.error "UnauthorizedAction")
  checks fun h => revertIf (L.chainId = b.chainid ∧ L.keccak256 h.consensusState ≠ L.keccak256 [])
    (.error "UnauthorizedAction")
  writes fun h => { h with
    consensusState := state
    consensusUpdateTimestamp := b.timestamp
    stateCommitments := Function.update h.stateCommitments height commitment
    stateCommitmentsUpdateTime := Function.update h.stateCommitmentsUpdateTime height b.timestamp
    latestStateMachineHeight := Function.update h.latestStateMachineHeight height.stateMachineId height.height }

/-- `setFrozenState`; the handler never calls it. -/
def setFrozenState (status : FrozenStatus) : Code Unit := do
  checks fun h => revertIf (caller ≠ h.hostParams.admin ∧ caller ≠ h.hostParams.handler)
    (.error "UnauthorizedAction")
  writes fun h => { h with frozen := status }
  emit (.hostFrozen status)

end Hyperbridge.Evm

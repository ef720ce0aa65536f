import Hyperbridge.Ismp.Host
import Mathlib.Data.List.Sort

/-!
# The message handlers

`ismp::handlers`: what the host does with each kind of message. Every handler first checks the whole batch against the
host as it stands and then makes the callbacks one by one, so the checks and the callbacks are separate definitions here
too.
-/

namespace Hyperbridge.Ismp

open Lib Exec

inductive MessageResult where
  | consensusMessage (events : List Event)
  | frozenClient (consensusStateId : ConsensusStateId)
  | request (results : List (Except Error Event))
  | response (results : List (Except Error Event))
  | timeout (results : List (Except Error Event))
  deriving DecidableEq

variable {Other : Type} (T : Config Other)

/-- The challenge period of the commitment has passed. -/
def verifyDelayPassed (h : Host Other) (proofHeight : StateMachineHeight) : Except Error Bool := do
  let updateTime ← h.updateTimeOf proofHeight
  let delayPeriod ← okOr ((h.challengePeriod proofHeight.id).map fromSecs)
    (.challengePeriodNotConfigured proofHeight.id)
  pure (asSecs delayPeriod == 0 || decide (delayPeriod < h.now - updateTime))

def validateStateMachine (proofHeight : StateMachineHeight) (h : Host Other) :
    Except Error (StateMachineClient Other) := do
  let clientId ← okOr (h.consensusStateClient proofHeight.id.consensusStateId)
    (.consensusStateIdNotRecognized proofHeight.id.consensusStateId)
  let client ← consensusClient T clientId
  h.isConsensusClientFrozen proofHeight.id.consensusStateId
  let passed ← verifyDelayPassed h proofHeight
  if passed then client.stateMachine proofHeight.id.stateId
  else do
    let updateTime ← h.updateTimeOf proofHeight
    .error (.challengePeriodNotElapsed proofHeight.id updateTime h.now)

def provenOn (chain proven : StateMachine) : Bool :=
  chain == proven || (isAllowedProxy T proven && checkStateMachineClient T chain)

def storeCommitments (id : StateMachineId) (previousLatest : UInt64) :
    List StateCommitmentHeight → Option UInt64 → Pallet Other (Option UInt64)
  | [], last => pure last
  | c :: cs, last => do
      let known ← gets fun w => (w.host.stateCommitments ⟨id, c.height⟩).isSome
      if c.height < previousLatest || known then storeCommitments id previousLatest cs last
      else do
        writes fun h =>
          { h with
            stateCommitments := Function.update h.stateCommitments ⟨id, c.height⟩ (some c.commitment)
            stateMachineUpdateTime :=
              Function.update h.stateMachineUpdateTime ⟨id, c.height⟩ (some (asSecs h.now)) }
        storeCommitments id previousLatest cs (some c.height)

def updateStateMachine (consensusStateId : ConsensusStateId)
    (entry : StateMachine × List StateCommitmentHeight) : Pallet Other (Option Event) := do
  let id : StateMachineId := ⟨entry.1, consensusStateId⟩
  let previousLatest ← gets fun w => w.host.latestCommitmentHeight id
  let sorted := entry.2.insertionSort fun a b => a.height ≤ b.height
  match ← storeCommitments id previousLatest sorted none with
  | some latest => do
      writes fun h =>
        { h with latestStateMachineHeight := Function.update h.latestStateMachineHeight id (some latest) }
      pure (some (.stateMachineUpdated id latest))
  | none => pure none

/-- `update_client`. -/
def updateClient (msg : ConsensusMessage) : Pallet Other MessageResult := do
  let id := msg.consensusStateId
  let (newState, intermediateStates) ← reads fun h => do
    let clientId ← okOr (h.consensusStateClient id) (.consensusStateIdNotRecognized id)
    let client ← consensusClient T clientId
    let trustedState ← h.consensusState id
    h.isConsensusClientFrozen id
    h.isExpired id
    client.verifyConsensus h id trustedState msg.consensusProof
  writes fun h =>
    { h with
      consensusStates := Function.update h.consensusStates id (some newState)
      consensusClientUpdateTime := Function.update h.consensusClientUpdateTime id (some (asSecs h.now)) }
  let updates ← collect (updateStateMachine id) intermediateStates
  pure (.consensusMessage (updates.filterMap fun update => update))

/-- `freeze_client`. -/
def freezeClient (msg : FraudProofMessage) : Pallet Other MessageResult := do
  let id := msg.consensusStateId
  reads fun h => do
    let clientId ← okOr (h.consensusStateClient id) (.custom "Unknown Consensus State Id")
    h.isConsensusClientFrozen id
    let client ← consensusClient T clientId
    let trustedState ← h.consensusState id
    client.verifyFraudProof h trustedState msg.proof1 msg.proof2
  writes fun h =>
    { h with
      frozenConsensusClients := Function.update h.frozenConsensusClients id true
      consensusClientUpdateTime := Function.update h.consensusClientUpdateTime id (some (asSecs h.now)) }
  pure (.frozenClient id)

variable (proven : StateMachine)

/-- The loop body of the checks of a request message. -/
def checkRequest (post : PostRequest) : Pallet Other Unit := do
  let req : Request := .post post
  let commitment ← requestHash T req
  let receipt ← gets fun w => w.host.requestReceipts commitment
  throwIf receipt.isSome (.duplicateRequest (.ofRequest req))
  let now ← gets fun w => w.host.now
  throwIf (req.timedOut now) (.requestTimeout (.ofRequest req))
  throwIf (req.destChain != T.hostStateMachine && !isRouter T) (.invalidRequestDestination (.ofRequest req))
  throwIf (!provenOn T req.sourceChain proven) (.requestProxyProhibited (.ofRequest req))

variable (signer : Bytes) (post : PostRequest)

def settleAccept (commitment : H256) :
    Except Error Unit → Pallet Other (Except Error Event)
  | .ok _ => pure (.ok (.postRequestHandled commitment signer))
  | .error e => do
      let _ ← deleteRequestReceipt T (.post post)
      pure (.error e)

/-- Deliver a request: receipt, callback, and back. -/
def dispatchAccept : Pallet Other (Except Error Event) := do
  let cb ← ofExcept (moduleForId T post.toModule)
  let commitment ← requestHash T (.post post)
  let receipt ← gets fun w => w.host.requestReceipts commitment
  note (.accepting post receipt.isSome)
  storeRequestReceipt T (.post post) signer
  let res ← attempt (cb.onAccept post)
  note (.accepted post res.isOk)
  settleAccept T signer post commitment res

def acceptResult : Pallet Other (Except Error Event) := do
  match ← attempt (dispatchAccept T signer post) with
  | .ok res => pure res
  | .error e => pure (.error e)

def handleRequest (msg : RequestMessage) : Pallet Other MessageResult := do
  let stateMachine ← reads (validateStateMachine T msg.proof.height)
  forEach (checkRequest T msg.proof.height.id.stateId) msg.requests
  let state ← reads fun h => h.stateMachineCommitment msg.proof.height
  reads fun h => stateMachine.verifyMembership h (.request (msg.requests.map .post)) state msg.proof
  let results ← collect (acceptResult T msg.signer) msg.requests
  pure (.request results)

def checkResponse (response : Response) : Pallet Other Unit := do
  let commitment ← requestHash T response.request
  let h ← gets fun w => w.host
  throwIf (h.requestCommitments commitment).isNone (.unsolicitedResponse (.ofResponse response))
  throwIf (h.responseReceipts commitment).isSome (.duplicateResponse (.ofResponse response))
  throwIf (response.timedOut h.now) (.responseTimeout (.ofResponse response))
  throwIf (!provenOn T response.sourceChain proven) (.responseProxyProhibited (.ofResponse response))

def settleResponse (receipt : Response) (event : Pallet Other Event) :
    Except Error Unit → Pallet Other (Except Error Event)
  | .ok _ => do
      let event ← event
      pure (.ok event)
  | .error e => do
      let _ ← deleteResponseReceipt T receipt
      pure (.error e)

def dispatchResponseTo (moduleId signer : Bytes) (receipt response : Response) (event : Pallet Other Event) :
    Pallet Other (Except Error Event) := do
  let cb ← ofExcept (moduleForId T moduleId)
  let commitment ← requestHash T response.request
  let stored ← gets fun w => w.host.responseReceipts commitment
  note (.responding response stored.isSome)
  storeResponseReceipt T receipt signer
  let res ← attempt (cb.onResponse response)
  note (.responded response res.isOk)
  settleResponse T receipt event res

def dispatchResponse (response : Response) : Pallet Other (Except Error Event) :=
  dispatchResponseTo T response.destinationModule signer response response do
    let commitment ← responseHash T response
    pure (.postResponseHandled commitment signer)

def checkGetRequest (req : Request) : Pallet Other GetRequest := do
  match req with
  | .post _ => throw (.invalidResponseType (.ofRequest req))
  | .get get => do
      let now ← gets fun w => w.host.now
      throwIf (req.timedOut now) (.requestTimeout (.ofRequest req))
      throwIf (req.destChain != proven) (.requestProofMetadataNotValid (.ofRequest req))
      let commitment ← requestHash T req
      let h ← gets fun w => w.host
      throwIf (h.requestCommitments commitment).isNone (.unknownRequest (.ofRequest req))
      throwIf (h.responseReceipts commitment).isSome (.duplicateResponse (.ofResponse (.get ⟨get, []⟩)))
      pure get

def dispatchGet (stateMachine : StateMachineClient Other) (state : StateCommitment) (proof : Proof)
    (signer : Bytes) (get : GetRequest) : Pallet Other (Except Error Event) := do
  let values ← reads fun h => stateMachine.verifyStateProof h get.keys state proof
  let response : Response := .get ⟨get, values.map fun kv => ⟨kv.1, kv.2⟩⟩
  dispatchResponseTo T get.fromModule signer (.get ⟨get, []⟩) response do
    let commitment ← requestHash T (.get get)
    pure (.getRequestHandled commitment signer)

def handleResponse (msg : ResponseMessage) : Pallet Other MessageResult := do
  let stateMachine ← reads (validateStateMachine T msg.proof.height)
  let state ← reads fun h => h.stateMachineCommitment msg.proof.height
  let proven := msg.proof.height.id.stateId
  match msg.datagram with
  | .response responses => do
      forEach (checkResponse T proven) responses
      reads fun h => stateMachine.verifyMembership h (.response responses) state msg.proof
      let results ← collect (dispatchResponse T msg.signer) responses
      pure (.response results)
  | .request requests => do
      let gets ← collect (checkGetRequest T proven) requests
      throwIf (!gets.all fun get => get.height == msg.proof.height.height) .insufficientProofHeight
      let results ← collect (dispatchGet T stateMachine state msg.proof msg.signer) gets
      pure (.response results)

/-- The request is known and late by this time. -/
def checkTimedOut (time : Duration) (request : Request) : Pallet Other Unit := do
  let commitment ← requestHash T request
  let known ← gets fun w => w.host.requestCommitments commitment
  throwIf known.isNone (.unknownRequest (.ofRequest request))
  throwIf (!request.timedOut time) (.requestTimeoutNotElapsed (.ofRequest request) request.timeout time)

def checkRequestTimeout (state : StateCommitment) (request : Request) :
    Pallet Other Unit := do
  throwIf (!provenOn T request.destChain proven) (.requestProxyProhibited (.ofRequest request))
  checkTimedOut T state.time request

def checkResponseTimeout (state : StateCommitment) (response : PostResponse) :
    Pallet Other Unit := do
  let info : Meta := .ofResponse (.post response)
  throwIf (!provenOn T response.destChain proven) (.responseProxyProhibited info)
  let commitment ← responseHash T (.post response)
  let known ← gets fun w => w.host.responseCommitments commitment
  throwIf known.isNone (.unknownResponse info)
  throwIf (decide (state.time < response.timeout))
    (.requestTimeoutNotElapsed info response.timeout state.time)

/-- The callback of a timeout, logged. -/
def callTimeout (cb : IsmpModule Other) (timeout : Timeout) : Pallet Other (Except Error Unit) := do
  note (.timingOut timeout)
  let res ← attempt (cb.onTimeout timeout)
  note (.timedOut timeout res.isOk)
  pure res

/-- The request came from another chain. -/
def isRouted (source : StateMachine) : Bool := T.hostStateMachine != source

def takeReceipt (routed : Bool) (delete : Pallet Other Bytes) : Pallet Other (Option Bytes) :=
  if routed then optional delete else pure none

def restoreReceipt (routed : Bool) (signer : Option Bytes) (store : Bytes → Pallet Other Unit) :
    Pallet Other Unit :=
  match signer with
  | some signer => if routed then store signer else pure ()
  | none => pure ()

variable (request : Request)

def settleRequestTimeout (metadata : RequestMetadata) (signer : Option Bytes) :
    Except Error Unit → Pallet Other (Except Error Event)
  | .ok _ => do
      let commitment ← requestHash T request
      pure (.ok (.postRequestTimeoutHandled commitment request.sourceChain request.destChain))
  | .error e => do
      storeRequestCommitment T request metadata
      restoreReceipt (isRouted T request.sourceChain) signer (storeRequestReceipt T request)
      pure (.error e)

def dispatchRequestTimeout : Pallet Other (Except Error Event) := do
  let cb ← ofExcept (moduleForId T request.sourceModule)
  let metadata ← deleteRequestCommitment T request
  let signer ← takeReceipt (isRouted T request.sourceChain) (deleteRequestReceipt T request)
  let res ← callTimeout cb (.request request)
  settleRequestTimeout T request metadata signer res

def settleResponseTimeout (response : PostResponse) (metadata : RequestMetadata) (signer : Option Bytes) :
    Except Error Unit → Pallet Other (Except Error Event)
  | .ok _ => do
      let commitment ← responseHash T (.post response)
      pure (.ok (.postResponseTimeoutHandled commitment response.sourceChain response.destChain))
  | .error e => do
      storeResponseCommitment T response metadata
      restoreReceipt (isRouted T response.sourceChain) signer (storeResponseReceipt T (.post response))
      pure (.error e)

def dispatchResponseTimeout (response : PostResponse) : Pallet Other (Except Error Event) := do
  let cb ← ofExcept (moduleForId T response.sourceModule)
  let metadata ← deleteResponseCommitment T response
  let signer ← takeReceipt (isRouted T response.sourceChain) (deleteResponseReceipt T (.post response))
  let res ← callTimeout cb (.response response)
  settleResponseTimeout T response metadata signer res

def settleGetTimeout (metadata : RequestMetadata) :
    Except Error Unit → Pallet Other (Except Error Event)
  | .ok _ => do
      let commitment ← requestHash T request
      pure (.ok (.getRequestTimeoutHandled commitment request.sourceChain request.destChain))
  | .error e => do
      storeRequestCommitment T request metadata
      pure (.error e)

def dispatchGetTimeout : Pallet Other (Except Error Event) := do
  let cb ← ofExcept (moduleForId T request.sourceModule)
  let metadata ← deleteRequestCommitment T request
  let res ← callTimeout cb (.request request)
  settleGetTimeout T request metadata res

/-- `ismp::handlers::timeout::handle`. -/
def handleTimeout : TimeoutMessage → Pallet Other MessageResult
  | .post requests proof => do
      let stateMachine ← reads (validateStateMachine T proof.height)
      let state ← reads fun h => h.stateMachineCommitment proof.height
      forEach (checkRequestTimeout T proof.height.id.stateId state) requests
      let keys := stateMachine.receiptsStateTrieKey (.request requests)
      let values ← reads fun h => stateMachine.verifyStateProof h keys state proof
      throwIf (values.any fun kv => kv.2.isSome) (.custom "Some Requests in the batch have been delivered")
      let results ← collect (dispatchRequestTimeout T) requests
      pure (.timeout results)
  | .postResponse responses proof => do
      let stateMachine ← reads (validateStateMachine T proof.height)
      let state ← reads fun h => h.stateMachineCommitment proof.height
      forEach (checkResponseTimeout T proof.height.id.stateId state) responses
      let keys := stateMachine.receiptsStateTrieKey (.response (responses.map .post))
      let values ← reads fun h => stateMachine.verifyStateProof h keys state proof
      throwIf (values.any fun kv => kv.2.isSome) (.custom "Some responses in the batch have been delivered")
      let results ← collect (dispatchResponseTimeout T) responses
      pure (.timeout results)
  | .get requests => do
      -- no proof here: the host's own clock is the only condition beside the commitment
      let now ← gets fun w => w.host.now
      forEach (checkTimedOut T now) requests
      let results ← collect (dispatchGetTimeout T) requests
      pure (.timeout results)

/-- `handle_incoming_message`. -/
def handleIncomingMessage : Message → Pallet Other MessageResult
  | .consensus msg => updateClient T msg
  | .fraudProof msg => freezeClient T msg
  | .request msg => handleRequest T msg
  | .response msg => handleResponse T msg
  | .timeout msg => handleTimeout T msg

end Hyperbridge.Ismp

import Hyperbridge.Ismp.Handlers

/-!
# Entry points of the pallet

`handle_messages` runs the messages in order and stops at the first that is rejected; it also fails when a
single callback failed. The extrinsics that call it are transactional, so a failed call leaves nothing
behind. `dispatch_request` and `dispatch_response` are the way out of the host.
-/

namespace Hyperbridge.Ismp

open Lib Exec

inductive DispatchError where
  | invalidMessage
  deriving DecidableEq

def MessageResult.results : MessageResult → List (Except Error Event)
  | consensusMessage events => events.map .ok
  | frozenClient _ => []
  | request results => results
  | response results => results
  | timeout results => results

variable {Other : Type} (T : Config Other)

def runMessages (messages : List Message) : Pallet Other (List Event) := do
  let results ← collect (handleIncomingMessage T) messages
  ofExcept (collectResults (results.map MessageResult.results).flatten)

/-- `handle_messages`; every failure is `InvalidMessage`. -/
def handleMessages (messages : List Message) : Exec (World Other) DispatchError (List Event) :=
  mapErr (fun _ => .invalidMessage) (runMessages T messages)

structure DispatchPost where
  dest : StateMachine
  fromModule : Bytes
  toModule : Bytes
  timeout : UInt64
  body : Bytes

structure DispatchGet where
  dest : StateMachine
  fromModule : Bytes
  keys : List Bytes
  height : UInt64
  context : Bytes
  timeout : UInt64

inductive DispatchRequest where
  | post (post : DispatchPost)
  | get (get : DispatchGet)

def pushLeaf (leaf : Leaf) : Pallet Other LeafIndexAndPos := do
  let pushed ← gets fun w => T.mmrPush leaf w.host.other
  writes fun h => { h with other := pushed.2 }
  pure pushed.1

/-- A request that is not known is pushed and recorded. -/
def commitRequest (request : Request) (fee : FeeMetadata) : Pallet Other H256 := do
  let commitment ← requestHash T request
  let known ← gets fun w => w.host.requestCommitments commitment
  throwIf known.isSome (.custom "Duplicate request")
  let mmr ← pushLeaf T (.request request)
  writes fun h =>
    { h with requestCommitments := Function.update h.requestCommitments commitment (some ⟨mmr, fee, false⟩) }
  pure commitment

def commitResponse (response : Response) (fee : FeeMetadata) : Pallet Other H256 := do
  let reqCommitment ← requestHash T response.request
  let responded ← gets fun w => w.host.responded reqCommitment
  throwIf responded (.custom "Request has been responded to")
  let commitment ← responseHash T response
  let mmr ← pushLeaf T (.response response)
  writes fun h =>
    { h with
      responseCommitments := Function.update h.responseCommitments commitment (some ⟨mmr, fee, false⟩)
      responded := Function.update h.responded reqCommitment true }
  pure commitment

def nextNonce : Pallet Other UInt64 := do
  let nonce ← gets fun w => w.host.nonce
  writes fun h => { h with nonce := nonce + 1 }
  pure nonce

/-- `saturating_add`. -/
def saturatingAdd (a b : UInt64) : UInt64 := UInt64.ofNat (min (a.toNat + b.toNat) (2 ^ 64 - 1))

def stampRequest (request : DispatchRequest) : Pallet Other Request := do
  let nonce ← nextNonce
  let now ← gets fun w => asSecs w.host.now
  match request with
  | .get get => pure (.get
      { source := T.hostStateMachine, dest := get.dest, nonce := nonce, fromModule := get.fromModule
        keys := get.keys, height := get.height, context := get.context
        timeoutTimestamp := if get.timeout = 0 then 0 else now + get.timeout })
  | .post post => pure (.post
      { source := T.hostStateMachine, dest := post.dest, nonce := nonce, fromModule := post.fromModule
        toModule := post.toModule
        timeoutTimestamp := if post.timeout = 0 then 0 else saturatingAdd now post.timeout
        body := post.body })

def collectFee (fee : FeeMetadata) : Pallet Other Unit :=
  if fee.fee = 0 then pure () else transferFee T fee.payer T.relayerFeeAccount fee.fee

def noFee : FeeMetadata := ⟨List.replicate 32 0, 0⟩

/-- `dispatch_request`. -/
def dispatchRequest (request : DispatchRequest) (fee : FeeMetadata) : Pallet Other H256 := do
  collectFee T fee
  let request ← stampRequest T request
  commitRequest T request fee

def dispatchPostResponse (response : PostResponse) (fee : FeeMetadata) : Pallet Other H256 := do
  collectFee T fee
  let reqCommitment ← requestHash T response.request
  let receipt ← gets fun w => w.host.requestReceipts reqCommitment
  throwIf receipt.isNone (.unknownRequest (.ofRequest response.request))
  commitResponse T (.post response) fee

inductive MessageCommitment where
  | request (commitment : H256)
  | response (commitment : H256)
  deriving DecidableEq

namespace MessageCommitment

def commitment : MessageCommitment → H256
  | request c => c
  | response c => c

def metadata (h : Host Other) : MessageCommitment → Option RequestMetadata
  | request c => h.requestCommitments c
  | response c => h.responseCommitments c

def insert (metadata : RequestMetadata) (h : Host Other) : MessageCommitment → Host Other
  | request c => { h with requestCommitments := Function.update h.requestCommitments c (some metadata) }
  | response c => { h with responseCommitments := Function.update h.responseCommitments c (some metadata) }

theorem metadata_insert (metadata : RequestMetadata) (h : Host Other) (m m' : MessageCommitment) :
    m'.metadata (m.insert metadata h) = if m = m' then some metadata else m'.metadata h := by
  cases m with
  | request c =>
    cases m' with
    | request c' => simp [MessageCommitment.metadata, insert, Function.update_apply, eq_comm]
    | response c' => simp [MessageCommitment.metadata, insert]
  | response c =>
    cases m' with
    | request c' => simp [MessageCommitment.metadata, insert]
    | response c' => simp [MessageCommitment.metadata, insert, Function.update_apply, eq_comm]

end MessageCommitment

end Hyperbridge.Ismp

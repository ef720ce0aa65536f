import Hyperbridge.Lib.Bytes

/-!
# Requests, responses and messages

The data types of `ismp::router`, `ismp::messaging`, `ismp::consensus` and `ismp::events`, and the
commitments made from them. `Request::encode` goes through `StateMachine::to_string`, which panics on an
identifier that is not UTF-8; `none` stands for that panic here and in everything computed from it.
Durations are counted in nanoseconds.
-/

namespace Hyperbridge.Ismp

open Lib

/-- In nanoseconds. -/
abbrev Duration := Nat

def fromSecs (secs : UInt64) : Duration := secs.toNat * 1000000000

def asSecs (d : Duration) : UInt64 := UInt64.ofNat (d / 1000000000)

abbrev ConsensusStateId := BytesN 4

abbrev ConsensusClientId := BytesN 4

/-- `ismp::host::StateMachine`. -/
inductive StateMachine where
  | evm (id : UInt32)
  | polkadot (id : UInt32)
  | kusama (id : UInt32)
  | substrate (id : ConsensusStateId)
  | tendermint (id : ConsensusStateId)
  deriving DecidableEq

namespace StateMachine

/-- `StateMachine::to_string`. -/
def toText : StateMachine → Option Bytes
  | evm id => some (asBytes "EVM-" ++ decimal id.toNat)
  | polkadot id => some (asBytes "POLKADOT-" ++ decimal id.toNat)
  | kusama id => some (asBytes "KUSAMA-" ++ decimal id.toNat)
  | substrate id => (asBytes "SUBSTRATE-" ++ ·) <$> fromUtf8 id.bytes
  | tendermint id => (asBytes "TNDRMINT-" ++ ·) <$> fromUtf8 id.bytes

def isEvm : StateMachine → Bool
  | evm _ => true
  | _ => false

def isSubstrate : StateMachine → Bool
  | polkadot _ => true
  | kusama _ => true
  | substrate _ => true
  | _ => false

end StateMachine

structure StateMachineId where
  stateId : StateMachine
  consensusStateId : ConsensusStateId
  deriving DecidableEq

structure StateMachineHeight where
  id : StateMachineId
  height : UInt64
  deriving DecidableEq

structure StateCommitment where
  timestamp : UInt64
  overlayRoot : Option H256
  stateRoot : H256
  deriving DecidableEq

def StateCommitment.time (s : StateCommitment) : Duration := fromSecs s.timestamp

/-- `ismp::router::PostRequest`. -/
structure PostRequest where
  source : StateMachine
  dest : StateMachine
  nonce : UInt64
  fromModule : Bytes
  toModule : Bytes
  timeoutTimestamp : UInt64
  body : Bytes
  deriving DecidableEq

/-- `ismp::router::GetRequest`. -/
structure GetRequest where
  source : StateMachine
  dest : StateMachine
  nonce : UInt64
  fromModule : Bytes
  keys : List Bytes
  height : UInt64
  context : Bytes
  timeoutTimestamp : UInt64
  deriving DecidableEq

/-- Zero stands for no timeout. -/
def getTimeout (timeoutTimestamp : UInt64) : Duration :=
  if timeoutTimestamp = 0 then fromSecs (UInt64.ofNat (2 ^ 64 - 1)) else fromSecs timeoutTimestamp

inductive Request where
  | post (post : PostRequest)
  | get (get : GetRequest)
  deriving DecidableEq

namespace Request

def sourceChain : Request → StateMachine
  | get g => g.source
  | post p => p.source

def sourceModule : Request → Bytes
  | get g => g.fromModule
  | post p => p.fromModule

def destChain : Request → StateMachine
  | get g => g.dest
  | post p => p.dest

def nonce : Request → UInt64
  | get g => g.nonce
  | post p => p.nonce

def timeout : Request → Duration
  | post p => getTimeout p.timeoutTimestamp
  | get g => getTimeout g.timeoutTimestamp

def timedOut (r : Request) (proofTimestamp : Duration) : Bool := r.timeout ≤ proofTimestamp

def encode : Request → Option Bytes
  | post p => do
      let source ← p.source.toText
      let dest ← p.dest.toText
      some (source ++ dest ++ beBytes 8 p.nonce.toNat ++ beBytes 8 p.timeoutTimestamp.toNat ++ p.fromModule
        ++ p.toModule ++ p.body)
  | get g => do
      let source ← g.source.toText
      let dest ← g.dest.toText
      some (source ++ dest ++ beBytes 8 g.nonce.toNat ++ beBytes 8 g.height.toNat
        ++ beBytes 8 g.timeoutTimestamp.toNat ++ g.fromModule ++ g.keys.flatten ++ g.context)

end Request

structure PostResponse where
  post : PostRequest
  response : Bytes
  timeoutTimestamp : UInt64
  deriving DecidableEq

namespace PostResponse

variable (r : PostResponse)

def request : Request := .post r.post

def sourceModule : Bytes := r.post.toModule

def sourceChain : StateMachine := r.post.dest

def destChain : StateMachine := r.post.source

def timeout : Duration := getTimeout r.timeoutTimestamp

def encode (r : PostResponse) : Option Bytes := do
  let request ← r.request.encode
  some (request ++ r.response ++ beBytes 8 r.timeoutTimestamp.toNat)

end PostResponse

structure StorageValue where
  key : Bytes
  value : Option Bytes
  deriving DecidableEq

structure GetResponse where
  get : GetRequest
  values : List StorageValue
  deriving DecidableEq

def GetResponse.encode (r : GetResponse) : Option Bytes := do
  let request ← (Request.get r.get).encode
  some (request ++ (r.values.map fun v => v.key ++ v.value.getD []).flatten)

/-- `ismp::router::Response`. -/
inductive Response where
  | post (post : PostResponse)
  | get (get : GetResponse)
  deriving DecidableEq

namespace Response

def request : Response → Request
  | post r => .post r.post
  | get r => .get r.get

def destinationModule : Response → Bytes
  | get r => r.get.fromModule
  | post r => r.post.fromModule

def sourceChain : Response → StateMachine
  | get r => r.get.dest
  | post r => r.post.dest

def destChain : Response → StateMachine
  | get r => r.get.source
  | post r => r.post.source

def nonce : Response → UInt64
  | get r => r.get.nonce
  | post r => r.post.nonce

def timedOut (r : Response) (proofTimestamp : Duration) : Bool :=
  match r with
  | get r => getTimeout r.get.timeoutTimestamp ≤ proofTimestamp
  | post r => r.timeout ≤ proofTimestamp

def encode : Response → Option Bytes
  | post r => r.encode
  | get r => r.encode

end Response

/-- What is proven or answered: requests or responses. -/
inductive RequestResponse where
  | request (requests : List Request)
  | response (responses : List Response)
  deriving DecidableEq

/-- What a module is told of a timeout. -/
inductive Timeout where
  | request (request : Request)
  | response (response : PostResponse)
  deriving DecidableEq

section Commitments

variable (keccak256 : Bytes → H256)

/-- `hash_request`; `none` is the panic of `encode`. -/
def hashRequest (r : Request) : Option H256 := keccak256 <$> r.encode

def hashPostResponse (r : PostResponse) : Option H256 := keccak256 <$> r.encode

def hashResponse (r : Response) : Option H256 := keccak256 <$> r.encode

end Commitments

/-- A proof for a height of a state machine. -/
structure Proof where
  height : StateMachineHeight
  proof : Bytes
  deriving DecidableEq

structure ConsensusMessage where
  consensusProof : Bytes
  consensusStateId : ConsensusStateId
  signer : Bytes

structure FraudProofMessage where
  proof1 : Bytes
  proof2 : Bytes
  consensusStateId : ConsensusStateId

structure RequestMessage where
  requests : List PostRequest
  proof : Proof
  signer : Bytes

structure ResponseMessage where
  datagram : RequestResponse
  proof : Proof
  signer : Bytes

inductive TimeoutMessage where
  | post (requests : List Request) (timeoutProof : Proof)
  | postResponse (responses : List PostResponse) (timeoutProof : Proof)
  | get (requests : List Request)

inductive Message where
  | consensus (message : ConsensusMessage)
  | fraudProof (message : FraudProofMessage)
  | request (message : RequestMessage)
  | response (message : ResponseMessage)
  | timeout (message : TimeoutMessage)

structure StateCommitmentHeight where
  commitment : StateCommitment
  height : UInt64

end Hyperbridge.Ismp

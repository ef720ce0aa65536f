import Hyperbridge.Ismp.Delivery
import Hyperbridge.TokenGateway.Inspector

/-!
# The modules of the Hyperbridge runtime

On Hyperbridge every message goes to one module, `ProxyModule`. It forwards what is meant for another chain, after the
token gateway inspector has looked at it; the rest it hands to the XCM gateway or the token governor. The XCM gateway
brings tokens of the relay chain to EVM chains and back; it holds them in its account and pays them out by an XCM
transfer.
-/

namespace Hyperbridge.Nexus

open Lib Exec Ismp TokenGateway

inductive ModuleId where
  | pallet (id : BytesN 8)
  | contract (account : BytesN 32)
  | evm (address : H160)
  deriving DecidableEq

def ModuleId.fromBytes (b : Bytes) : Except Error ModuleId :=
  match BytesN.ofBytes 8 b, BytesN.ofBytes 32 b, BytesN.ofBytes 20 b with
  | some id, _, _ => .ok (.pallet id)
  | none, some account, _ => .ok (.contract account)
  | none, none, some address => .ok (.evm address)
  | none, none, none => .error (.custom "Unknown Module ID format")

structure Pallets (Other : Type) where
  inspector : Lens Other Inspector.Storage
  tokenGatewayParams : Other → StateMachine → Option H160
  reserveTransfer : Bytes → BitVec 128 → Other → Except String Other
  sent : Other → List (Bytes × BitVec 128)
  sent_reserveTransfer : ∀ account amount o o', reserveTransfer account amount o = .ok o' →
    sent o' = sent o ++ [(account, amount)]
  tokenGovernor : PostRequest → Exec (World Other) Error Unit

variable {Other : Type}

/-- An address that is not set is zero. -/
def Pallets.tokenGatewayAddress (N : Pallets Other) (other : Other) (stateMachine : StateMachine) : H160 :=
  (N.tokenGatewayParams other stateMachine).getD (BytesN.zero 20)

variable (T : Config Other) (N : Pallets Other)

def convertToErc20 (value : BitVec 128) : U256 := BitVec.ofNat 256 (value.toNat * 10 ^ (18 - 10))

def convertToBalance (value : U256) : Option (BitVec 128) :=
  if value.toNat / 10 ^ (18 - 10) < 2 ^ 128 then some (BitVec.ofNat 128 (value.toNat / 10 ^ (18 - 10))) else none

namespace XcmGateway

def decodeBody (info : Meta) : Bytes → Pallet Other Body
  | [] => panicWith sliceText
  | _ :: data => ofExcept (okOr (Body.abiDecode data)
      (.moduleDispatchError "Token Gateway: Failed to decode request body" info))

def readAmount (info : Meta) (body : Body) : Pallet Other (BitVec 128) :=
  ofExcept (okOr (convertToBalance body.amount)
    (.moduleDispatchError "Token Gateway: Trying to withdraw Invalid amount" info))

def transfer (text : String) (info : Meta) (beneficiary : Bytes) (amount : BitVec 128) : Pallet Other Unit := do
  let other ← reads fun h =>
    match N.reserveTransfer beneficiary amount h.other with
    | .ok other => .ok other
    | .error _ => .error (.moduleDispatchError text info)
  writes fun h => { h with other := other }

/-- `on_accept` of the XCM gateway. -/
def onAccept (post : PostRequest) : Pallet Other Unit := do
  let info : Meta := .ofRequest (.post post)
  let gateway ← gets fun w => N.tokenGatewayAddress w.host.other post.source
  throwIf (post.fromModule != gateway.bytes)
    (.moduleDispatchError "Token Gateway: Unknown source contract address" info)
  throwIf post.source.isSubstrate (.moduleDispatchError "Token Gateway: Illegal source chain" info)
  let body ← decodeBody info post.body
  throwIf (body.assetId != T.keccak256 (asBytes "DOT"))
    (.moduleDispatchError "Token Gateway: AssetId is unknown" info)
  let amount ← readAmount info body
  transfer N "Token Gateway: Failed execute xcm to relay chain" info body.toAccount.bytes amount

def onTimeout : Timeout → Pallet Other Unit
  | .request (.post post) => do
      let info : Meta := .ofRequest (.post post)
      let commitment ← requestHash T (.post post)
      let metadata ← reads fun h => okOr (h.requestCommitments commitment)
        (.moduleDispatchError "Token Gateway: Fee metadata could not be found for request" info)
      let body ← decodeBody info post.body
      let amount ← readAmount info body
      transfer N "Token Gateway: Failed to execute xcm to relay chain" info metadata.fee.payer amount
  | .request (.get get) =>
      throw (.moduleDispatchError "Tried to timeout unsupported request type" (.ofRequest (.get get)))
  | .response response =>
      throw (.moduleDispatchError "Tried to timeout unsupported request type" (.ofResponse (.post response)))

/-- `MultiAccount`: who sends, and to whom on which chain. -/
structure MultiAccount where
  substrateAccount : BytesN 32
  evmAccount : H160
  destStateMachine : StateMachine
  timeout : UInt64

def teleportBody (account : MultiAccount) (amount : BitVec 128) : Body where
  amount := convertToErc20 amount
  assetId := T.keccak256 (asBytes "DOT")
  redeem := false
  fromAccount := account.substrateAccount
  toAccount := BytesN.ofNat 32 (beValue account.evmAccount.bytes)

def dispatchTeleport (account : MultiAccount) (amount : BitVec 128) : Pallet Other H256 := do
  let gateway ← gets fun w => N.tokenGatewayAddress w.host.other account.destStateMachine
  dispatchRequest T (.post
    { dest := account.destStateMachine, fromModule := gateway.bytes, toModule := gateway.bytes
      timeout := account.timeout, body := 0 :: (teleportBody T account amount).abiEncode })
    ⟨account.substrateAccount.bytes, 0⟩

end XcmGateway

def acceptHere (request : PostRequest) : Pallet Other Unit := do
  let id ← ofExcept (ModuleId.fromBytes request.toModule)
  let gateway ← gets fun w => N.tokenGatewayAddress w.host.other request.source
  if id = .evm gateway then XcmGateway.onAccept T N request
  else if some id = (BytesN.ofBytes 8 (asBytes "registry")).map .pallet then N.tokenGovernor request
  else throw (.module "Destination module not found")

/-- Inspect, then commit. -/
def forward (request : PostRequest) : Pallet Other Unit := do
  zoom (others.comp N.inspector) (Inspector.inspectRequest request)
  let _ ← commitRequest T (.post request) noFee
  pure ()

def timeoutHere (timeout : Timeout) (source : Bytes) (dest : StateMachine) : Pallet Other Unit := do
  let id ← ofExcept (ModuleId.fromBytes source)
  let gateway ← gets fun w => N.tokenGatewayAddress w.host.other dest
  if id = .evm gateway then XcmGateway.onTimeout T N timeout else pure ()

/-- The inspector takes a timed out request back. -/
def uninspect (post : PostRequest) : Pallet Other Unit :=
  if post.source = T.hostStateMachine then pure ()
  else zoom (others.comp N.inspector) (Inspector.handleTimeout post)

/-- `ProxyModule`. -/
def proxyModule : IsmpModule Other where
  onAccept request := if request.dest = T.hostStateMachine then acceptHere T N request else forward T N request
  onResponse response :=
    if response.destChain = T.hostStateMachine then throw (.module "Destination module not found")
    else do
      let _ ← commitResponse T response noFee
      pure ()
  onTimeout timeout :=
    match timeout with
    | .request (.post post) => do
        uninspect T N post
        timeoutHere T N timeout post.fromModule post.dest
    | .request (.get get) => timeoutHere T N timeout get.fromModule get.dest
    | .response response => timeoutHere T N timeout response.post.toModule response.post.dest

def runtime : Config Other :=
  { T with coprocessor := some T.hostStateMachine, router := fun _ => .ok (proxyModule T N) }

/-- The inspector, and the transfers made. -/
structure SampleOther where
  inspector : Inspector.Storage
  sent : List (Bytes × BitVec 128)

def sampleGateway : H160 := BytesN.ofNat 20 0xfd

def samplePallets : Pallets SampleOther where
  inspector :=
    { get := SampleOther.inspector
      set := fun inspector o => { o with inspector := inspector }
      get_set := fun _ _ => rfl
      set_get := fun _ => rfl
      set_set := fun _ _ _ => rfl }
  tokenGatewayParams _ chain := if chain = .evm 1 then some sampleGateway else none
  reserveTransfer account amount o := .ok { o with sent := o.sent ++ [(account, amount)] }
  sent := SampleOther.sent
  sent_reserveTransfer _ _ _ _ h := by rw [← Except.ok.inj h]
  tokenGovernor _ := pure ()

def sampleNexus (tracked : StateMachine) : Config SampleOther :=
  runtimeConfig (.polkadot 3367) tracked silentClient fun _ _ _ other => .ok other

def sampleWorld (inspector : Inspector.Storage) : World SampleOther :=
  ⟨{ sampleHost with other := ⟨inspector, []⟩ }, []⟩

end Hyperbridge.Nexus

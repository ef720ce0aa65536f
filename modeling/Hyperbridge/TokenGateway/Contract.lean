import Hyperbridge.Evm.Host
import Hyperbridge.Lib.Codec
import Hyperbridge.Lib.Lens
import Hyperbridge.Lib.Token
import Hyperbridge.TokenGateway.Body

/-!
# The token gateway contract

`TokenGateway` on an EVM chain. `teleport` takes an asset in and sends a request to another gateway, which arrives there
(`onAccept`) or times out here (`onPostRequestTimeout`). An asset has an ERC20 token, which the gateway keeps and gives
out, an ERC6160 token, which it burns and mints, or both, and then the `redeem` flag says which.

The registrations are constants here. A call that `onAccept` makes for the receiver is the flag it comes back with.
-/

namespace Hyperbridge.TokenGateway

open Lib Exec
open Evm (PostRequest DispatchPost Block)

/-- The state of the chain: its host, and its tokens. -/
structure Chain where
  evm : Evm.World
  tokens : H160 → Token

def Chain.host : Lens Chain Evm.World where
  get c := c.evm
  set w c := { c with evm := w }
  get_set _ _ := rfl
  set_get _ := rfl
  set_set _ _ _ := rfl

/-- `swap` pays a fee through the router, without the gateway. -/
structure Contract where
  libraries : Evm.Libraries
  stateMachine : Bytes
  address : H160
  host : H160
  feeToken : H160
  weth : H160
  erc20s : H256 → H160
  erc6160s : H256 → H160
  instances : H256 → H160
  swap : U256 → (H160 → Token) → Call (H160 → Token)
  swap_balance : ∀ fee tokens tokens', swap fee tokens = .ok tokens' →
    ∀ a, (tokens' a).balances address = (tokens a).balances address
  swap_supply : ∀ fee tokens tokens', swap fee tokens = .ok tokens' →
    ∀ a, a ≠ weth → (tokens' a).totalSupply = (tokens a).totalSupply

structure TeleportParams where
  amount : U256
  relayerFee : U256
  assetId : H256
  redeem : Bool
  recipient : H256
  dest : Bytes
  timeout : UInt64
  nativeCost : U256
  data : Bounded UInt8 (2 ^ 64 - 1)

abbrev Code := Exec Chain Revert

/-- One token is called. -/
def onToken (token : H160) (f : Token → Call Token) : Code Unit := do
  let changed ← query fun c => f (c.tokens token)
  modify fun c => { c with tokens := Function.update c.tokens token changed }

theorem length_paddedAddress (a : H160) : (List.replicate 12 (0 : UInt8) ++ a.bytes).length = 32 := by
  rw [List.length_append, List.length_replicate, BytesN.length_bytes]

def addressToBytes32 (a : H160) : H256 := ⟨List.replicate 12 0 ++ a.bytes, length_paddedAddress a⟩

def bytes32ToAddress (w : H256) : H160 := ⟨w.bytes.drop 12, by rw [List.length_drop, BytesN.length_bytes]⟩

theorem bytes32ToAddress_addressToBytes32 (a : H160) : bytes32ToAddress (addressToBytes32 a) = a :=
  BytesN.bytes_injective (List.drop_left' List.length_replicate)

namespace TeleportParams

def body (p : TeleportParams) (caller : H160) : Body :=
  ⟨p.amount, p.assetId, p.redeem, addressToBytes32 caller, p.recipient⟩

def encode (p : TeleportParams) (caller : H160) : Bytes :=
  0 :: if p.data.1.length = 0 then (p.body caller).abiEncode else BodyWithCall.abiEncode ⟨p.body caller, p.data.1⟩

end TeleportParams

namespace Contract

variable (g : Contract) (b : Block)

def gatewayOn (destination : Bytes) : H160 :=
  let gateway := g.instances (g.libraries.keccak256 destination)
  if gateway = BytesN.zero 20 then g.address else gateway

def takeFunds (caller : H160) (value : U256) (p : TeleportParams) : Code U256 :=
  let erc20 := g.erc20s p.assetId
  let erc6160 := g.erc6160s p.assetId
  if erc20 ≠ BytesN.zero 20 ∧ p.redeem = false then
    if p.amount ≤ value ∧ erc20 = g.weth then do
      onToken g.weth fun t => .ok (t.deposit p.amount g.address)
      pure (value - p.amount)
    else do
      onToken erc20 fun t => t.transferFrom p.amount g.address caller g.address
      pure value
  else if erc6160 ≠ BytesN.zero 20 then do
    onToken erc6160 fun t => t.burn p.amount caller
    pure value
  else throw (.error "UnknownAsset")

def dispatch (post : DispatchPost) (pay : U256 → Code Unit) : Code H256 := do
  let fee ← query fun c => Evm.messageFee g.libraries post.dest post.body.length post.fee c.evm.host
  pay fee
  zoom Chain.host (Evm.dispatchPost g.libraries b g.address post .noCode)

/-- The fee as the gateway computes it. -/
def dispatchFee (p : TeleportParams) (data : Bytes) (c : Chain) : Call U256 := do
  let charge ← U256.mul (Evm.perByteFee g.libraries p.dest c.evm.host) (.ofNat 256 data.length)
  U256.add charge p.relayerFee

def send (caller : H160) (value : U256) (p : TeleportParams) : Code H256 := do
  let data := p.encode caller
  let post : DispatchPost := ⟨p.dest, (g.gatewayOn p.dest).bytes, data, p.timeout, p.relayerFee, caller⟩
  if p.nativeCost ≤ value ∧ 0 < p.nativeCost then
    g.dispatch b post fun fee => do
      let tokens ← query fun c => g.swap fee c.tokens
      modify fun c => { c with tokens := tokens }
  else do
    let fee ← query (g.dispatchFee p data)
    onToken g.feeToken fun t => t.transferFrom fee g.address caller g.address
    g.dispatch b post fun fee => onToken g.feeToken fun t => t.transferFrom fee g.host g.address g.host

/-- `teleport`. -/
def teleport (caller : H160) (value : U256) (p : TeleportParams) : Code H256 := do
  throwIf (p.recipient = BytesN.zero 32) (.error "ZeroAddress")
  throwIf (p.amount = 0) (.error "InvalidAmount")
  let value ← g.takeFunds caller value p
  g.send b caller value p

variable (request : PostRequest)

def authenticate : Call Unit :=
  if request.fromModule = g.address.bytes then .ok ()
  else do
    let sender ← Evm.bytesToAddress request.fromModule
    revertIf (g.instances (g.libraries.keccak256 request.source) ≠ sender) (.error "UnauthorizedAction")

def bodyBytesSize : Nat := 161

/-- The length of the body says which struct it is. -/
def decodeBody : Bytes → Call Body
  | [] => .error (.require "")
  | action :: data =>
    let decoded :=
      if bodyBytesSize < (action :: data).length then (BodyWithCall.read data).map BodyWithCall.body
      else Body.readFrom data 0
    match decoded with
    | some body => .ok body
    | none => .error (.require "")

/-- Out of custody, or minted. -/
def handleIncomingAsset (body : Body) : Code Unit :=
  let erc20 := g.erc20s body.assetId
  let erc6160 := g.erc6160s body.assetId
  let recipient := bytes32ToAddress body.toAccount
  if erc20 ≠ BytesN.zero 20 ∧ body.redeem = true then
    onToken erc20 fun t => t.transfer body.amount g.address recipient
  else if erc6160 ≠ BytesN.zero 20 then onToken erc6160 fun t => t.mint body.amount recipient
  else throw (.error "UnknownAsset")

def onAccept (returns : Bool) : Code Unit :=
  match request.body with
  | [] => throw (.panic 0x32)
  | action :: _ =>
    if action = 0 then do
      let _ ← ofExcept (g.authenticate request)
      let body ← ofExcept (decodeBody request.body)
      g.handleIncomingAsset body
      throwIf (decide (bodyBytesSize < request.body.length) && !returns) (.require "")
    else if 5 < action then throw (.panic 0x21)
    else throw (.error "UnauthorizedAction")

def onPostRequestTimeout : Code Unit := do
  let body ← ofExcept (decodeBody request.body)
  let erc20 := g.erc20s body.assetId
  let erc6160 := g.erc6160s body.assetId
  let sender := bytes32ToAddress body.fromAccount
  if erc20 ≠ BytesN.zero 20 ∧ body.redeem = false then
    onToken erc20 fun t => t.transfer body.amount g.address sender
  else if erc6160 ≠ BytesN.zero 20 then onToken erc6160 fun t => t.mint body.amount sender
  else throw (.error "InconsistentState")

end Contract

/-- What a teleport sends is read as its body. -/
theorem decodeBody_encode (p : TeleportParams) (caller : H160) :
    Contract.decodeBody (p.encode caller) = .ok (p.body caller) := by
  unfold TeleportParams.encode Contract.decodeBody
  by_cases hdata : p.data.1.length = 0
  · have hlength : ¬ Contract.bodyBytesSize < (0 :: (p.body caller).abiEncode : Bytes).length := by
      rw [List.length_cons, Body.length_abiEncode]
      decide
    simp only [if_pos hdata, if_neg hlength, Body.readFrom_abiEncode]
  · have hlength : Contract.bodyBytesSize < (0 :: BodyWithCall.abiEncode ⟨p.body caller, p.data.1⟩ : Bytes).length :=
      Nat.succ_lt_succ (BodyWithCall.length_abiEncode _)
    have hbound : p.data.1.length < 2 ^ 256 := lt_of_le_of_lt p.data.2 (by decide)
    have hread := BodyWithCall.read_abiEncode ⟨p.body caller, p.data.1⟩ hbound
    simp only [if_neg hdata, if_pos hlength, hread, Option.map_some]

end Hyperbridge.TokenGateway

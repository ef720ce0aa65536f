import Hyperbridge.TokenGateway.Body
import Hyperbridge.TokenGateway.Primitives

/-!
# The token gateway of a substrate chain

`pallet-token-gateway` holds local assets in its account and tells other gateways to pay them out; what comes back, or
times out, it pays out again. An asset is named by its local id here and by the hash of its symbol elsewhere, and two
maps translate. Amounts travel with the decimals of the ERC20 counterpart, which a third map has.

Anyone may enter a pair into the maps (`createErc6160Asset`). Messages of the governor enter assets, change their
decimals and remove them.
-/

namespace Hyperbridge.TokenGateway.Gateway

open Lib Exec Ismp

inductive Error where
  | unregisteredAsset
  | assetTeleportError
  | coprocessorNotConfigured
  | dispatchError
  | assetDecimalsNotFound
  | unknownAsset
  | notAssetOwner
  | currency (text : String)
  deriving DecidableEq

abbrev AccountId := BytesN 32

/-- The maps of the pallet. -/
structure Storage (AssetId : Type) where
  supportedAssets : AssetId → Option H256
  localAssets : H256 → Option AssetId
  decimals : AssetId → Option UInt8
  tokenGatewayAddresses : StateMachine → Option Bytes

inductive Remainder where
  | keepAlive
  | allowDeath
  | protect
  deriving DecidableEq

/-- A transfer that was made. -/
structure Transfer (AssetId : Type) where
  asset : AssetId
  source : AccountId
  target : AccountId
  amount : BitVec 128
  deriving DecidableEq

structure Runtime (Other AssetId : Type) where
  storage : Lens Other (Storage AssetId)
  nativeAssetId : AssetId
  decimals : UInt8
  assetAdmin : AccountId
  assetRegistrationFee : Other → Nat
  nativeTransfer : AccountId → AccountId → BitVec 128 → Remainder → Other → Except String Other
  assetsTransfer : AssetId → AccountId → AccountId → BitVec 128 → Remainder → Other → Except String Other
  assetsDecimals : Other → AssetId → UInt8
  assetsAdmin : Other → AssetId → Option AccountId
  assetsCreate : AssetId → AccountId → BitVec 128 → Other → Except String Other
  assetsSetMetadata : AssetId → AccountId → Bytes → Bytes → UInt8 → Other → Except String Other
  createAssetId : Bytes → Other → Except String (AssetId × Other)
  transferred : Other → List (Transfer AssetId)
  transferred_nativeTransfer : ∀ source target amount remainder o o',
    nativeTransfer source target amount remainder o = .ok o' →
      transferred o' = transferred o ++ [⟨nativeAssetId, source, target, amount⟩]
  transferred_assetsTransfer : ∀ asset source target amount remainder o o',
    assetsTransfer asset source target amount remainder o = .ok o' →
      transferred o' = transferred o ++ [⟨asset, source, target, amount⟩]
  nativeTransfer_apart : ∀ source target amount remainder o o',
    nativeTransfer source target amount remainder o = .ok o' →
    storage.get o' = storage.get o ∧ assetsDecimals o' = assetsDecimals o
  assetsTransfer_apart : ∀ asset source target amount remainder o o',
    assetsTransfer asset source target amount remainder o = .ok o' →
      storage.get o' = storage.get o ∧ assetsDecimals o' = assetsDecimals o
  assetsCreate_apart : ∀ asset admin minBalance o o', assetsCreate asset admin minBalance o = .ok o' →
    storage.get o' = storage.get o ∧ ∀ asset', asset' ≠ asset → assetsDecimals o' asset' = assetsDecimals o asset'
  assetsSetMetadata_apart : ∀ asset admin name symbol decimals o o',
    assetsSetMetadata asset admin name symbol decimals o = .ok o' →
      storage.get o' = storage.get o ∧ assetsDecimals o' asset = decimals ∧
        ∀ asset', asset' ≠ asset → assetsDecimals o' asset' = assetsDecimals o asset'
  createAssetId_apart : ∀ symbol o asset o', createAssetId symbol o = .ok (asset, o') →
    storage.get o' = storage.get o ∧ assetsDecimals o' = assetsDecimals o
  assetsDecimals_set : ∀ s o, assetsDecimals (storage.set s o) = assetsDecimals o

variable {Other AssetId : Type} [DecidableEq AssetId] (T : Config Other) (K : Runtime Other AssetId)

def storageOf (w : World Other) : Storage AssetId := K.storage.get w.host.other

def updateStorage (f : Storage AssetId → Storage AssetId) (w : World Other) : World Other :=
  (others.comp K.storage).set (f (storageOf K w)) w

def palletIdAccount (id : BytesN 8) : AccountId :=
  ⟨asBytes "modl" ++ id.bytes ++ List.replicate 20 0, by
    have hmodl : (asBytes "modl").length = 4 := by decide
    simp [hmodl]⟩

def palletAccount : AccountId :=
  palletIdAccount ⟨(tokenGatewayId T.keccak256).bytes.take 8, by rw [List.length_take, BytesN.length_bytes]; rfl⟩

def hyperbridgeAccount : AccountId := palletIdAccount ⟨asBytes "HYPR-FEE", by decide⟩

def scale (ercDecimals decimals : UInt8) : Nat := 10 ^ (ercDecimals.toNat - decimals.toNat) % 2 ^ 128

def convertToErc20 (value : BitVec 128) (ercDecimals decimals : UInt8) : U256 :=
  BitVec.ofNat 256 (value.toNat * scale ercDecimals decimals)

def readBalance (value : U256) (scale : Nat) : Option (BitVec 128) :=
  if value.toNat / scale < 2 ^ 128 then some (BitVec.ofNat 128 (value.toNat / scale)) else none

def convertToBalance (info : Meta) (value : U256) (ercDecimals finalDecimals : UInt8) : Pallet Other (BitVec 128) :=
  if scale ercDecimals finalDecimals = 0 then panicWith "division by zero"
  else ofExcept (okOr (readBalance value (scale ercDecimals finalDecimals))
    (.moduleDispatchError "Token Gateway: Trying to withdraw Invalid amount" info))

variable (asset : AssetId)

/-- The decimals of the asset here. -/
def localDecimals (other : Other) : UInt8 :=
  if asset = K.nativeAssetId then K.decimals else K.assetsDecimals other asset

def transferAsset {ε : Type} (source target : AccountId) (amount : BitVec 128)
    (native others : Remainder) (err : String → ε) : Exec (World Other) ε Unit :=
  if asset = K.nativeAssetId then invoke (K.nativeTransfer source target amount native) err
  else invoke (K.assetsTransfer asset source target amount others) err

/-- An earlier partner of either keeps its entry. -/
def insertAsset (assetId : H256) (ercDecimals : UInt8) (s : Storage AssetId) : Storage AssetId :=
  { s with
    supportedAssets := Function.update s.supportedAssets asset (some assetId)
    localAssets := Function.update s.localAssets assetId (some asset)
    decimals := Function.update s.decimals asset (some ercDecimals) }

def setDecimals (ercDecimals : UInt8) (s : Storage AssetId) : Storage AssetId :=
  { s with decimals := Function.update s.decimals asset (some ercDecimals) }

/-- An unknown id is passed over. -/
def removeAsset (s : Storage AssetId) (assetId : H256) : Storage AssetId :=
  match s.localAssets assetId with
  | none => s
  | some asset =>
      { s with
        supportedAssets := Function.update s.supportedAssets asset none
        localAssets := Function.update s.localAssets assetId none
        decimals := Function.update s.decimals asset none }

structure TeleportParams (AssetId : Type) where
  assetId : AssetId
  destination : StateMachine
  recepient : H256
  amount : BitVec 128
  timeout : UInt64
  tokenGateway : Bytes
  relayerFee : Nat

variable (who : AccountId)

def teleportBody (params : TeleportParams AssetId) (assetId : H256) (ercDecimals decimals : UInt8) : Body where
  amount := convertToErc20 params.amount ercDecimals decimals
  assetId := assetId
  redeem := false
  fromAccount := who
  toAccount := params.recepient

/-- `teleport`. -/
def teleport (params : TeleportParams AssetId) : Exec (World Other) Error H256 := do
  let assetId ← query fun w => okOr ((storageOf K w).supportedAssets params.assetId) .unregisteredAsset
  transferAsset K params.assetId who (palletAccount T) params.amount .keepAlive .protect .currency
  let decimals ← gets fun w => localDecimals K params.assetId w.host.other
  let ercDecimals ← query fun w => okOr ((storageOf K w).decimals params.assetId) .assetDecimalsNotFound
  let post : DispatchPost :=
    { dest := params.destination, fromModule := (tokenGatewayId T.keccak256).bytes, toModule := params.tokenGateway
      timeout := params.timeout, body := 0 :: (teleportBody who params assetId ercDecimals decimals).abiEncode }
  mapErr (fun _ => .assetTeleportError) (dispatchRequest T (.post post) ⟨who.bytes, params.relayerFee⟩)

structure AssetRegistration (AssetId : Type) where
  localId : AssetId
  reg : GatewayAssetRegistration

def chargeFee : Exec (World Other) Error Unit := do
  let fee ← gets fun w => K.assetRegistrationFee w.host.other
  if fee ≠ 0 then invoke (T.transfer who.bytes hyperbridgeAccount.bytes fee) .currency else pure ()

/-- A request to the governor on Hyperbridge. -/
def tellGovernor (message : RemoteERC6160AssetRegistration) : Exec (World Other) Error H256 := do
  let dest ← ofExcept (okOr T.coprocessor .coprocessorNotConfigured)
  let post : DispatchPost :=
    { dest := dest, fromModule := (tokenGatewayId T.keccak256).bytes, toModule := tokenGovernorId, timeout := 0
      body := Codecs.remoteRegistration.encode message }
  mapErr (fun _ => .dispatchError) (dispatchRequest T (.post post) ⟨who.bytes, 0⟩)

def createErc6160Asset (asset : AssetRegistration AssetId) : Exec (World Other) Error H256 := do
  chargeFee T K who
  modify (updateStorage K (insertAsset asset.localId (T.keccak256 asset.reg.symbol.1) 18))
  tellGovernor T who (.createAsset asset.reg)

def ensureAdmin (asset : AssetId) : Exec (World Other) Error Unit := do
  let owner ← query fun w => okOr (K.assetsAdmin w.host.other asset) .unknownAsset
  throwIf (who ≠ owner) .notAssetOwner

/-- Only the admin may. -/
def updateErc6160Asset (asset : GatewayAssetUpdate) : Exec (World Other) Error H256 := do
  let localId ← query fun w => okOr ((storageOf K w).localAssets asset.assetId) .unregisteredAsset
  ensureAdmin K who localId
  chargeFee T K who
  tellGovernor T who (.updateAsset asset)

def setTokenGatewayAddresses (addresses : List (StateMachine × Bytes)) : Exec (World Other) Error Unit :=
  modify (updateStorage K fun s =>
    { s with
      tokenGatewayAddresses := addresses.foldl (fun m p => Function.update m p.1 (some p.2)) s.tokenGatewayAddresses })

def minBalance : BitVec 128 := 1000000000

variable (post : PostRequest)

/-- The request is from the governor. -/
def fromGovernor : Bool :=
  post.fromModule = tokenGovernorId ∧ T.coprocessor = some post.source

variable (metadata : AssetMetadata)

def createAsset : Pallet Other AssetId := do
  let created ← query fun w => (K.createAssetId metadata.symbol.1 w.host.other).mapError Ismp.Error.module
  modify (others.set created.2)
  invoke (K.assetsCreate created.1 K.assetAdmin (metadata.minimumBalance.getD minBalance)) .module
  invoke (K.assetsSetMetadata created.1 K.assetAdmin metadata.name.1 metadata.symbol.1 18) .module
  pure created.1

def renameAsset : Pallet Other Unit :=
  invoke (fun other => K.assetsSetMetadata asset K.assetAdmin metadata.name.1 metadata.symbol.1
    (K.assetsDecimals other asset) other) .module

def onMetadata : Pallet Other Unit := do
  let assetId := T.keccak256 metadata.symbol.1
  match ← gets fun w => (storageOf K w).localAssets assetId with
  | some asset =>
      renameAsset K asset metadata
      modify (updateStorage K (setDecimals asset metadata.decimals))
  | none =>
      let asset ← createAsset K metadata
      modify (updateStorage K (insertAsset asset assetId metadata.decimals))

def decodeBody (info : Meta) : Bytes → Pallet Other Body
  | [] => panicWith sliceText
  | _ :: data => ofExcept (okOr (Body.abiDecode data)
      (.moduleDispatchError "Token Gateway: Failed to decode request body" info))

def payOut (info : Meta) (body : Body) (beneficiary : AccountId) : Pallet Other Unit := do
  let asset ← query fun w => okOr ((storageOf K w).localAssets body.assetId)
    (.moduleDispatchError "Token Gateway: Unknown asset" info)
  let decimals ← gets fun w => localDecimals K asset w.host.other
  let ercDecimals ← query fun w => okOr ((storageOf K w).decimals asset) (.module "Asset decimals not configured")
  let amount ← convertToBalance info body.amount ercDecimals decimals
  transferAsset K asset (palletAccount T) beneficiary amount .allowDeath .protect
    fun _ => .moduleDispatchError "Token Gateway: Failed to complete asset transfer" info

/-- A transfer of a gateway. -/
def receive : Pallet Other Unit := do
  let info : Meta := .ofRequest (.post post)
  let gateway ← gets fun w => ((storageOf K w).tokenGatewayAddresses post.source).getD []
  throwIf (post.fromModule ≠ gateway ∧ post.fromModule ≠ (tokenGatewayId T.keccak256).bytes)
    (.moduleDispatchError "Token Gateway: Unknown source contract address" info)
  let body ← decodeBody info post.body
  payOut T K info body body.toAccount

/-- Deregistrations are done and then read as a transfer too. -/
def onDeregister : Pallet Other Unit :=
  match Codecs.deregisterAssets.read post.body with
  | some message => modify (updateStorage K fun s => message.assetIds.1.foldl removeAsset s)
  | none => pure ()

def onAccept : Pallet Other Unit :=
  if fromGovernor T post then
    match Codecs.assetMetadata.read post.body with
    | some metadata => onMetadata T K metadata
    | none => do
        onDeregister K post
        receive T K post
  else receive T K post

def onTimeout : Timeout → Pallet Other Unit
  | .request (.post post) => do
      let info : Meta := .ofRequest (.post post)
      let body ← decodeBody info post.body
      payOut T K info body body.fromAccount
  | .request (.get get) =>
      throw (.moduleDispatchError "Tried to timeout unsupported request type" (.ofRequest (.get get)))
  | .response response =>
      throw (.moduleDispatchError "Tried to timeout unsupported request type" (.ofResponse (.post response)))

def module : IsmpModule Other where
  onAccept := onAccept T K
  onResponse _ := throw (.module "Module does not accept responses")
  onTimeout := onTimeout T K

end Hyperbridge.TokenGateway.Gateway

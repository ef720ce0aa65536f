import Hyperbridge.TokenGateway.Primitives

/-!
# The token governor

`pallet-token-governor` knows the multi-chain assets: owners, metadata and chains. A deployment, a removal or a change
of admin is a message to the gateway of the chain. An asset is registered by an account for a fee, by anyone with a
signature of the account that paid on an EVM chain (`registerAssetUnsigned`), by the admin for an existing ERC20, or by
a message of a gateway pallet (`onAccept`). Updates come from root, from the owner, or as such a message.
-/

namespace Hyperbridge.TokenGovernor

open Lib Exec Ismp TokenGateway

inductive Error where
  | assetAlreadyExists
  | notInitialized
  | dispatchFailed
  | invalidUtf8
  | unknownAsset
  | notAssetOwner
  | invalidSignature
  | unknownTokenGateway
  | currency (text : String)
  deriving DecidableEq

def Error.debug : Error → String
  | assetAlreadyExists => "AssetAlreadyExists"
  | notInitialized => "NotInitialized"
  | dispatchFailed => "DispatchFailed"
  | invalidUtf8 => "InvalidUtf8"
  | unknownAsset => "UnknownAsset"
  | notAssetOwner => "NotAssetOwner"
  | invalidSignature => "InvalidSignature"
  | unknownTokenGateway => "UnknownTokenGateway"
  | currency text => text

abbrev AccountId := BytesN 32

structure InitialSupply where
  beneficiary : H160
  initialSupply : U256

structure ChainWithSupply where
  chain : StateMachine
  supply : Option InitialSupply

structure ERC6160AssetRegistration where
  name : ShortText
  symbol : ShortText
  chains : List ChainWithSupply
  minimumBalance : Option (BitVec 128)

structure ERC6160AssetUpdate where
  assetId : H256
  addChains : Bounded ChainWithSupply 100
  removeChains : Bounded StateMachine 100
  newAdmins : Bounded (StateMachine × H160) 100

structure UnsignedERC6160AssetRegistration where
  asset : ERC6160AssetRegistration
  signature : Bounded UInt8 65
  owner : AccountId

structure AssetRegistration where
  chain : StateMachine
  erc20 : Option H160
  erc6160 : Option H160
  decimals : UInt8

structure ERC20AssetRegistration where
  name : ShortText
  symbol : ShortText
  chains : List AssetRegistration

def ERC6160AssetRegistration.ofGateway (asset : GatewayAssetRegistration) : ERC6160AssetRegistration where
  name := asset.name
  symbol := asset.symbol
  chains := asset.chains.1.map fun chain => ⟨chain, none⟩
  minimumBalance := asset.minimumBalance

def ERC6160AssetUpdate.ofGateway (asset : GatewayAssetUpdate) : ERC6160AssetUpdate where
  assetId := asset.assetId
  addChains := ⟨asset.addChains.1.map fun chain => ⟨chain, none⟩, by rw [List.length_map]; exact asset.addChains.2⟩
  removeChains := asset.removeChains
  newAdmins := asset.newAdmins

structure SolAssetMetadata where
  erc20 : H160
  erc6160 : H160
  name : Bytes
  symbol : Bytes
  initialSupply : U256
  beneficiary : H160

def SolAssetMetadata.ofMetadata (metadata : AssetMetadata) : Option SolAssetMetadata := do
  let name ← fromUtf8 metadata.name.1
  let symbol ← fromUtf8 metadata.symbol.1
  some ⟨BytesN.zero 20, BytesN.zero 20, name, symbol, 0, BytesN.zero 20⟩

/-- The two strings come after the other fields. -/
def SolAssetMetadata.encodeRequest (m : SolAssetMetadata) : Bytes :=
  2 :: (abiWords [BytesN.ofNat 32 32, addressWord m.erc20, addressWord m.erc6160, BytesN.ofNat 32 192,
    BytesN.ofNat 32 (192 + (abiBytes m.name).length), m.initialSupply.toWord, addressWord m.beneficiary]
    ++ abiBytes m.name ++ abiBytes m.symbol)

/-- `SolDeregsiterAsset`, of one asset. -/
def encodeDeregister (assetId : H256) : Bytes :=
  3 :: abiWords [BytesN.ofNat 32 32, BytesN.ofNat 32 32, BytesN.ofNat 32 1, assetId]

def encodeChangeAdmin (assetId : H256) (newAdmin : H160) : Bytes := 4 :: abiWords [assetId, addressWord newAdmin]

def decodeRequestBody (data : Bytes) : Option (H160 × H256) := do
  let word ← abiWord data 0
  let assetId ← abiWord data 1
  let owner ← BytesN.ofBytes 20 (word.bytes.drop 12)
  if abiWords [addressWord owner, assetId] = data then some (owner, assetId) else none

/-- Maps to unit are kept as what has an entry. -/
structure Storage where
  pendingAsset : H256 → Option H160
  supportedChains : H256 → StateMachine → Bool
  assetMetadatas : H256 → Option AssetMetadata
  assetOwners : H256 → Option AccountId
  registrationFee : Option Nat
  tokenRegistrarParams : StateMachine → Option H160
  tokenGatewayParams : StateMachine → Option H160
  standaloneChainAssets : StateMachine → H256 → Bool

structure Runtime (Other : Type) where
  storage : Lens Other Storage
  treasuryAccount : AccountId
  secp256k1EcdsaRecover : Bytes → H256 → Option Bytes
  decodeErrorText : Bytes → String

variable {Other : Type} (T : Config Other) (K : Runtime Other)

def storageOf (w : World Other) : Storage := K.storage.get w.host.other

def updateStorage (f : Storage → Storage) (w : World Other) : World Other :=
  (others.comp K.storage).set (f (storageOf K w)) w

/-- A request without a fee. -/
def send (dest : StateMachine) (address : H160) (body : Bytes) : Exec (World Other) Error Unit := do
  let post : DispatchPost :=
    { dest := dest, fromModule := tokenGovernorId, toModule := address.bytes, timeout := 0, body := body }
  let _ ← mapErr (fun _ => .dispatchFailed) (dispatchRequest T (.post post) noFee)
  pure ()

def contractAddress (chain : StateMachine) : Exec (World Other) Error H160 :=
  query fun w => okOr ((storageOf K w).tokenGatewayParams chain) .unknownTokenGateway

/-- On Substrate chains the gateway is a pallet. -/
def gatewayAddress (chain : StateMachine) : Exec (World Other) Error H160 :=
  if chain.isSubstrate then pure (tokenGatewayId T.keccak256) else contractAddress K chain

def deploymentBody (metadata : AssetMetadata) (chain : StateMachine) (supply : Option InitialSupply) :
    Except Error Bytes :=
  if chain.isSubstrate then .ok (Codecs.assetMetadata.encode metadata)
  else do
    let body ← okOr (SolAssetMetadata.ofMetadata metadata) .invalidUtf8
    match supply with
    | some supply =>
        .ok { body with beneficiary := supply.beneficiary, initialSupply := supply.initialSupply }.encodeRequest
    | none => .ok body.encodeRequest

def support (assetId : H256) (chain : StateMachine) (s : Storage) : Storage :=
  { s with
    supportedChains := Function.update s.supportedChains assetId
      (Function.update (s.supportedChains assetId) chain true) }

/-- The creation is sent, and the chain is entered. -/
def deploy (assetId : H256) (metadata : AssetMetadata) (target : ChainWithSupply) : Exec (World Other) Error Unit := do
  let address ← gatewayAddress T K target.chain
  let body ← ofExcept (deploymentBody metadata target.chain target.supply)
  send T target.chain address body
  modify (updateStorage K (support assetId target.chain))

def insertAsset (assetId : H256) (metadata : AssetMetadata) (who : AccountId) (s : Storage) : Storage :=
  { s with
    assetMetadatas := Function.update s.assetMetadatas assetId (some metadata)
    assetOwners := Function.update s.assetOwners assetId (some who) }

def ERC6160AssetRegistration.metadata (asset : ERC6160AssetRegistration) : AssetMetadata :=
  ⟨asset.name, asset.symbol, 18, asset.minimumBalance⟩

def ensureNew (assetId : H256) : Exec (World Other) Error Unit := do
  let owner ← gets fun w => (storageOf K w).assetOwners assetId
  throwIf owner.isSome .assetAlreadyExists

/-- `register_asset`. -/
def registerAsset (asset : ERC6160AssetRegistration) (who : AccountId) : Exec (World Other) Error Unit := do
  let assetId := T.keccak256 asset.symbol.1
  ensureNew K assetId
  forEach (deploy T K assetId asset.metadata) asset.chains
  modify (updateStorage K (insertAsset assetId asset.metadata who))

def copyPanic (length : Nat) : String :=
  "source slice length (" ++ toString length ++ ") does not match destination slice length (65)"

def addressOf (pubKey : Bytes) : H160 :=
  ⟨(T.keccak256 pubKey).bytes.drop 12, by rw [List.length_drop, BytesN.length_bytes]⟩

/-- The signer of the id has paid for it. -/
def checkSignature (assetId : H256) (signature : Bytes) : Exec (World Other) Error Unit := do
  let _ ← expect (copyPanic signature.length) (BytesN.ofBytes 65 signature)
  let pubKey ← ofExcept (okOr (K.secp256k1EcdsaRecover signature assetId) .invalidSignature)
  let owner ← query fun w => okOr ((storageOf K w).pendingAsset assetId) .unknownAsset
  throwIf (addressOf T pubKey ≠ owner) .notAssetOwner

def removePending (assetId : H256) (s : Storage) : Storage :=
  { s with pendingAsset := Function.update s.pendingAsset assetId none }

/-- `register_asset_unsigned`. -/
def registerAssetUnsigned (registration : UnsignedERC6160AssetRegistration) : Exec (World Other) Error Unit := do
  let assetId := T.keccak256 registration.asset.symbol.1
  checkSignature T K assetId registration.signature.1
  registerAsset T K registration.asset registration.owner
  modify (updateStorage K (removePending assetId))

def createErc6160Asset (who : AccountId) (asset : ERC6160AssetRegistration) : Exec (World Other) Error Unit := do
  let fee ← query fun w => okOr (storageOf K w).registrationFee .notInitialized
  invoke (T.transfer who.bytes K.treasuryAccount.bytes fee) .currency
  registerAsset T K asset who

def deployErc20 (assetId : H256) (metadata : AssetMetadata) (target : AssetRegistration) :
    Exec (World Other) Error Unit := do
  let body ← ofExcept (okOr (SolAssetMetadata.ofMetadata { metadata with decimals := target.decimals }) .invalidUtf8)
  let address ← contractAddress K target.chain
  send T target.chain address { body with
    erc20 := target.erc20.getD body.erc20, erc6160 := target.erc6160.getD body.erc6160 }.encodeRequest
  modify (updateStorage K (support assetId target.chain))

def palletAccount : AccountId :=
  ⟨asBytes "modl" ++ tokenGovernorId ++ List.replicate 20 0, by decide⟩

def createErc20Asset (asset : ERC20AssetRegistration) : Exec (World Other) Error Unit := do
  let assetId := T.keccak256 asset.symbol.1
  let metadata : AssetMetadata := ⟨asset.name, asset.symbol, 0, none⟩
  ensureNew K assetId
  forEach (deployErc20 T K assetId metadata) asset.chains
  let last := asset.chains.getLast?.elim metadata fun target => { metadata with decimals := target.decimals }
  modify (updateStorage K (insertAsset assetId last palletAccount))

/-- Only chains that are not entered yet. -/
def addChain (assetId : H256) (metadata : AssetMetadata) (target : ChainWithSupply) :
    Exec (World Other) Error Unit := do
  let supported ← gets fun w => (storageOf K w).supportedChains assetId target.chain
  if supported then pure () else deploy T K assetId metadata target

/-- `supportedChains` keeps the chain. -/
def removeChain (assetId : H256) (chain : StateMachine) : Exec (World Other) Error Unit := do
  let supported ← gets fun w => (storageOf K w).supportedChains assetId chain
  if supported then
    let address ← gatewayAddress T K chain
    send T chain address
      (if chain.isSubstrate then Codecs.deregisterAssets.encode ⟨⟨[assetId], Nat.le_of_ble_eq_true rfl⟩⟩
        else encodeDeregister assetId)
  else pure ()

/-- Only for chains that are entered. -/
def changeAdmin (assetId : H256) (change : StateMachine × H160) : Exec (World Other) Error Unit := do
  let supported ← gets fun w => (storageOf K w).supportedChains assetId change.1
  if supported then
    let address ← contractAddress K change.1
    send T change.1 address (encodeChangeAdmin assetId change.2)
  else pure ()

def updateErc6160AssetImpl (update : ERC6160AssetUpdate) : Exec (World Other) Error Unit := do
  let metadata ← query fun w => okOr ((storageOf K w).assetMetadatas update.assetId) .unknownAsset
  forEach (addChain T K update.assetId metadata) update.addChains.1
  forEach (removeChain T K update.assetId) update.removeChains.1
  forEach (changeAdmin T K update.assetId) update.newAdmins.1

inductive Origin where
  | root
  | signed (who : AccountId)
  | none
  deriving DecidableEq

/-- `ensure_root_or_owner`. -/
def ensureRootOrOwner (origin : Origin) (assetId : H256) : Exec (World Other) Error Unit :=
  match origin with
  | .root => pure ()
  | .signed who => do
      let owner ← query fun w => okOr ((storageOf K w).assetOwners assetId) .unknownAsset
      throwIf (who ≠ owner) .notAssetOwner
  | .none => throw .unknownAsset

def updateErc6160Asset (origin : Origin) (update : ERC6160AssetUpdate) : Exec (World Other) Error Unit := do
  ensureRootOrOwner K origin update.assetId
  updateErc6160AssetImpl T K update

def deregisterStandaloneChainNativeAssets (assets : List (StateMachine × H256)) : Exec (World Other) Error Unit :=
  modify (updateStorage K fun s =>
    { s with
      standaloneChainAssets := assets.foldl (fun m p => Function.update m p.1 (Function.update (m p.1) p.2 false))
        s.standaloneChainAssets })

/-- The account a chain owns assets with. -/
def chainAccount (chain : StateMachine) : AccountId := T.keccak256 (Relayer.encodeStateMachine chain)

def fromGatewayPallet (post : PostRequest) : Bool :=
  post.source.isSubstrate ∧ post.fromModule = (tokenGatewayId T.keccak256).bytes

def registrationFailed (e : Error) : Ismp.Error := .custom ("Failed create asset " ++ e.debug)

/-- A message of a gateway pallet; updates are not checked. -/
def onRemote (source : StateMachine) : RemoteERC6160AssetRegistration → Pallet Other Unit
  | .createAsset asset => do
      mapErr registrationFailed (registerAsset T K (.ofGateway asset) (chainAccount T source))
      modify (updateStorage K fun s =>
        { s with
          standaloneChainAssets := Function.update s.standaloneChainAssets source
            (Function.update (s.standaloneChainAssets source) (T.keccak256 asset.symbol.1) true) })
  | .updateAsset asset => mapErr registrationFailed (updateErc6160AssetImpl T K (.ofGateway asset))

def insertPending (assetId : H256) (owner : H160) (s : Storage) : Storage :=
  { s with pendingAsset := Function.update s.pendingAsset assetId (some owner) }

/-- Someone has paid on an EVM chain. -/
def onRegistrar (post : PostRequest) : Pallet Other Unit := do
  let address ← query fun w => okOr ((storageOf K w).tokenRegistrarParams post.source)
    (.custom "Pallet is not initialized")
  throwIf (post.fromModule ≠ address.bytes) (.custom "Unauthorized action")
  let (owner, assetId) ← ofExcept (okOr (decodeRequestBody post.body)
    (.custom ("Decode error: " ++ K.decodeErrorText post.body)))
  let known ← gets fun w =>
    ((storageOf K w).assetOwners assetId).isSome || ((storageOf K w).pendingAsset assetId).isSome
  throwIf known (.custom "Asset already exists")
  modify (updateStorage K (insertPending assetId owner))

/-- `on_accept`. -/
def onAccept (post : PostRequest) : Pallet Other Unit :=
  if fromGatewayPallet T post then do
    let message ← ofExcept (okOr (Codecs.remoteRegistration.read post.body) (.custom "Failed to decode data"))
    onRemote T K post.source message
  else onRegistrar K post

def module : IsmpModule Other where
  onAccept := onAccept T K
  onResponse _ := throw (.module "Module does not expect responses")
  onTimeout _ := throw (.module "Module does not expect timeouts")

end Hyperbridge.TokenGovernor

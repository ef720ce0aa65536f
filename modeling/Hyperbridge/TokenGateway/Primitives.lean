import Hyperbridge.Relayer.Withdraw

/-!
# What the token gateway and the token governor say to each other

The types of `token-gateway-primitives`, with their SCALE encodings. The governor tells the gateway pallets about assets
(`AssetMetadata`, `DeregisterAssets`); they ask the governor to create or update one (`RemoteERC6160AssetRegistration`).
The messages of the governor carry no tag: the gateway tries the one type and then the other.
-/

namespace Hyperbridge.TokenGateway

open Lib Ismp

/-- The last 20 bytes of the hash of the pallet's id. -/
def tokenGatewayId (keccak256 : Bytes → H256) : H160 :=
  ⟨(keccak256 (asBytes "tokengty")).bytes.drop 12, by rw [List.length_drop, BytesN.length_bytes]⟩

def tokenGovernorId : Bytes := asBytes "registry"

abbrev ShortText := Bounded UInt8 20

/-- Lists of any length that SCALE can write. -/
abbrev Vec (α : Type) := Bounded α (2 ^ 32 - 1)

structure AssetMetadata where
  name : ShortText
  symbol : ShortText
  decimals : UInt8
  minimumBalance : Option (BitVec 128)
  deriving DecidableEq

structure DeregisterAssets where
  assetIds : Vec H256

theorem length_one_id_le (id : H256) : [id].length ≤ 2 ^ 32 - 1 := Nat.le_of_ble_eq_true rfl

structure GatewayAssetRegistration where
  name : ShortText
  symbol : ShortText
  chains : Vec StateMachine
  minimumBalance : Option (BitVec 128)

structure GatewayAssetUpdate where
  assetId : H256
  addChains : Bounded StateMachine 100
  removeChains : Bounded StateMachine 100
  newAdmins : Bounded (StateMachine × H160) 100

inductive RemoteERC6160AssetRegistration where
  | createAsset (asset : GatewayAssetRegistration)
  | updateAsset (asset : GatewayAssetUpdate)

namespace Codecs

open Codec

def shortText : Codec ShortText := vec byte 20 (by decide)

def unbounded {α : Type} (c : Codec α) : Codec (Vec α) := vec c (2 ^ 32 - 1) (by decide)

/-- A tag, and the identifier. -/
def decodeStateMachine : Bytes → Option (StateMachine × Bytes)
  | [] => none
  | tag :: b =>
      if tag = 0 then tagged u32 .evm b
      else if tag = 1 then tagged u32 .polkadot b
      else if tag = 2 then tagged u32 .kusama b
      else if tag = 3 then tagged (fixed 4) .substrate b
      else if tag = 4 then tagged (fixed 4) .tendermint b
      else none

def stateMachine : Codec StateMachine where
  encode := Relayer.encodeStateMachine
  decode := decodeStateMachine
  decode_eq_some {b chain rest} := by
    cases b with
    | nil => cases chain <;> simp [decodeStateMachine, Relayer.encodeStateMachine]
    | cons tag b =>
      simp only [decodeStateMachine]
      split_ifs <;> cases chain <;>
        simp_all [tagged_eq_some, Relayer.encodeStateMachine, u32_encode, fixed_encode]

def assetMetadata : Codec AssetMetadata :=
  (pair shortText (pair shortText (pair byte (option u128)))).imap
    (fun p => ⟨p.1, p.2.1, p.2.2.1, p.2.2.2⟩) (fun a => (a.name, a.symbol, a.decimals, a.minimumBalance))
    (fun _ => rfl) (fun _ => rfl)

def deregisterAssets : Codec DeregisterAssets :=
  (unbounded (fixed 32)).imap DeregisterAssets.mk DeregisterAssets.assetIds (fun _ => rfl) (fun _ => rfl)

def gatewayAssetRegistration : Codec GatewayAssetRegistration :=
  (pair shortText (pair shortText (pair (unbounded stateMachine) (option u128)))).imap
    (fun p => ⟨p.1, p.2.1, p.2.2.1, p.2.2.2⟩) (fun a => (a.name, a.symbol, a.chains, a.minimumBalance))
    (fun _ => rfl) (fun _ => rfl)

def gatewayAssetUpdate : Codec GatewayAssetUpdate :=
  (pair (fixed 32) (pair (vec stateMachine 100 (by decide)) (pair (vec stateMachine 100 (by decide))
    (vec (pair stateMachine (fixed 20)) 100 (by decide))))).imap
    (fun p => ⟨p.1, p.2.1, p.2.2.1, p.2.2.2⟩) (fun a => (a.assetId, a.addChains, a.removeChains, a.newAdmins))
    (fun _ => rfl) (fun _ => rfl)

def remoteRegistration : Codec RemoteERC6160AssetRegistration where
  encode
    | .createAsset asset => 0 :: gatewayAssetRegistration.encode asset
    | .updateAsset asset => 1 :: gatewayAssetUpdate.encode asset
  decode
    | [] => none
    | tag :: b =>
        if tag = 0 then tagged gatewayAssetRegistration .createAsset b
        else if tag = 1 then tagged gatewayAssetUpdate .updateAsset b
        else none
  decode_eq_some {b message rest} := by
    cases b with
    | nil => cases message <;> simp
    | cons tag b =>
      dsimp only
      split_ifs <;> cases message <;> simp_all [tagged_eq_some]

end Codecs

end Hyperbridge.TokenGateway

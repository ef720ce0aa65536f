import Hyperbridge.Evm.Manager
import Hyperbridge.Lib.Codec
import Hyperbridge.PalletHyperbridge.Dispatcher

/-!
# The host executive

Hyperbridge keeps a copy of the parameters of every connected host. `update_host_params` changes the copy and sends the
new parameters to the host: to pallet-hyperbridge on a Substrate chain, to the host manager on an EVM chain. The host
manager is itself a parameter, and the message goes to the new one.
-/

namespace Hyperbridge.HostExecutive

open Lib Exec Ismp
open PalletHyperbridge (SubstrateHostParams IsmpDispatcher palletIsmp)
open Evm.Manager (FullParams listedFee)

structure PerByteFee where
  stateId : H256
  perByteFee : U256
  deriving DecidableEq

structure EvmHostParam where
  defaultTimeout : BitVec 128
  defaultPerByteFee : U256
  stateCommitmentFee : U256
  feeToken : H160
  admin : H160
  handler : H160
  hostManager : H160
  uniswapV2 : H160
  unStakingPeriod : BitVec 128
  challengePeriod : BitVec 128
  consensusClient : H160
  stateMachines : Bounded UInt32 1000
  perByteFees : Bounded PerByteFee 1000
  hyperbridge : Bounded UInt8 1000

structure EvmHostParamUpdate where
  defaultTimeout : Option (BitVec 128) := none
  defaultPerByteFee : Option U256 := none
  feeToken : Option H160 := none
  stateCommitmentFee : Option U256 := none
  admin : Option H160 := none
  handler : Option H160 := none
  hostManager : Option H160 := none
  uniswapV2 : Option H160 := none
  unStakingPeriod : Option (BitVec 128) := none
  challengePeriod : Option (BitVec 128) := none
  consensusClient : Option H160 := none
  stateMachines : Option (Bounded UInt32 1000) := none
  perByteFees : Option (Bounded PerByteFee 1000) := none
  hyperbridge : Option (Bounded UInt8 1000) := none

inductive HostParam where
  | substrateHostParam (params : SubstrateHostParams)
  | evmHostParam (params : EvmHostParam)

inductive HostParamUpdate where
  | substrateHostParam (params : SubstrateHostParams)
  | evmHostParam (update : EvmHostParamUpdate)

namespace EvmHostParam

/-- `EvmHostParam::update`: what is not given stays. -/
def update (self : EvmHostParam) (update : EvmHostParamUpdate) : EvmHostParam where
  defaultTimeout := update.defaultTimeout.getD self.defaultTimeout
  defaultPerByteFee := update.defaultPerByteFee.getD self.defaultPerByteFee
  stateCommitmentFee := update.stateCommitmentFee.getD self.stateCommitmentFee
  feeToken := update.feeToken.getD self.feeToken
  admin := update.admin.getD self.admin
  handler := update.handler.getD self.handler
  hostManager := update.hostManager.getD self.hostManager
  uniswapV2 := update.uniswapV2.getD self.uniswapV2
  unStakingPeriod := update.unStakingPeriod.getD self.unStakingPeriod
  challengePeriod := update.challengePeriod.getD self.challengePeriod
  consensusClient := update.consensusClient.getD self.consensusClient
  stateMachines := update.stateMachines.getD self.stateMachines
  perByteFees := update.perByteFees.getD self.perByteFees
  hyperbridge := update.hyperbridge.getD self.hyperbridge

def toAbi (p : EvmHostParam) : FullParams where
  defaultTimeout := p.defaultTimeout.setWidth 256
  defaultPerByteFee := p.defaultPerByteFee
  stateCommitmentFee := p.stateCommitmentFee
  feeToken := p.feeToken
  admin := p.admin
  handler := p.handler
  hostManager := p.hostManager
  uniswapV2 := p.uniswapV2
  unStakingPeriod := p.unStakingPeriod.setWidth 256
  challengePeriod := p.challengePeriod.setWidth 256
  consensusClient := p.consensusClient
  stateMachines := p.stateMachines.1.map fun id => .ofNat 256 id.toNat
  perByteFees := p.perByteFees.1.map fun fee => ⟨fee.stateId, fee.perByteFee⟩
  hyperbridge := p.hyperbridge.1

theorem sized_toAbi (p : EvmHostParam) : p.toAbi.Sized := by
  have hmachines := p.stateMachines.2
  have hfees := p.perByteFees.2
  have hhyperbridge := p.hyperbridge.2
  refine ⟨?_, ?_, ?_⟩
  · show (p.stateMachines.1.map _).length < 2 ^ 64
    rw [List.length_map]
    omega
  · show (p.perByteFees.1.map _).length < 2 ^ 64
    rw [List.length_map]
    omega
  · show p.hyperbridge.1.length < 2 ^ 64
    omega

/-- The fee listed last for a destination, or the default. -/
def feeOf (p : EvmHostParam) (hash : H256) : U256 := (listedFee p.toAbi.perByteFees hash).getD p.defaultPerByteFee

end EvmHostParam

structure Storage where
  hostParams : StateMachine → Option HostParam

inductive Error where
  | dispatchFailed
  | unknownStateMachine
  | mismatchedHostParams
  deriving DecidableEq

structure Runtime (Other : Type) where
  storage : Lens Other Storage
  updateMessage : SubstrateHostParams → Bytes

variable {Other : Type} (T : Config Other) (K : Runtime Other)

def paramsOf (w : World Other) (chain : StateMachine) : Option HostParam :=
  (K.storage.get w.host.other).hostParams chain

def setParams (chain : StateMachine) (params : HostParam) (w : World Other) : World Other :=
  (others.comp K.storage).set ⟨Function.update (paramsOf K w) chain (some params)⟩ w

def evmPost (chain : StateMachine) (params : EvmHostParam) : DispatchPost where
  dest := chain
  fromModule := asBytes "hostexec"
  toModule := params.hostManager.bytes
  timeout := 0
  body := 1 :: params.toAbi.abiEncode

def substratePost (chain : StateMachine) (params : SubstrateHostParams) : DispatchPost where
  dest := chain
  fromModule := asBytes "hostexec"
  toModule := asBytes "HYPR-FEE"
  timeout := 0
  body := K.updateMessage params

def prepare (chain : StateMachine) : HostParam → HostParamUpdate → Except Error (DispatchPost × HostParam)
  | .evmHostParam inner, .evmHostParam update =>
      .ok (evmPost chain (inner.update update), .evmHostParam (inner.update update))
  | .substrateHostParam _, .substrateHostParam update => .ok (substratePost K chain update, .substrateHostParam update)
  | _, _ => .error .mismatchedHostParams

/-- `update_host_params`. -/
def updateHostParams (host : IsmpDispatcher Other) (chain : StateMachine) (update : HostParamUpdate) :
    Exec (World Other) Error Unit := do
  let params ← query fun w => okOr (paramsOf K w chain) .unknownStateMachine
  let (post, updated) ← ofExcept (prepare K chain params update)
  let _ ← mapErr (fun _ => .dispatchFailed) (host.dispatchRequest (.post post) noFee)
  modify (setParams K chain updated)

variable {T K} {chain : StateMachine} {w w' : World Other}

theorem paramsOf_setParams (chain : StateMachine) (params : HostParam) (w : World Other) :
    paramsOf K (setParams K chain params w) chain = some params := by
  simp [paramsOf, setParams, Lens.comp, others]

theorem updateHostParams_ok {params : EvmHostParam} {update : EvmHostParamUpdate}
    (hparams : paramsOf K w chain = some (.evmHostParam params))
    (h : (updateHostParams K (palletIsmp T) chain (.evmHostParam update)).run w = (.ok (), w')) :
    paramsOf K w' chain = some (.evmHostParam (params.update update)) ∧
      ∃ c, hashRequest T.keccak256 (stamped T w (.post (evmPost chain (params.update update)))) = some c ∧
        w'.host.requestCommitments c ≠ none := by
  obtain ⟨found, hfound, h⟩ := query_bind_ok.mp h
  rw [hparams] at hfound
  obtain rfl := Except.ok.inj hfound
  obtain ⟨⟨post, updated⟩, hprepare, h⟩ := ofExcept_bind_ok.mp h
  obtain ⟨rfl, rfl⟩ := Prod.mk.inj (Except.ok.inj hprepare)
  obtain ⟨c, w₁, hdispatch, h⟩ := bind_ok.mp h
  obtain ⟨-, rfl⟩ := Prod.mk.inj h
  refine ⟨paramsOf_setParams _ _ _, ?_⟩
  obtain ⟨other, -, hhash, -, rfl⟩ := dispatchRequest_ok (mapErr_ok.mp hdispatch)
  refine ⟨c, hhash, ?_⟩
  simp [setParams, Lens.comp, others, withCommitment]

def bscHash : H256 := sampleDigest (asBytes "EVM-56")

theorem one_le_thousand : 1 ≤ 1000 := by decide

theorem length_hyperbridge_le : (asBytes "POLKADOT-3367").length ≤ 1000 := by decide

def startParams : EvmHostParam where
  defaultTimeout := 0
  defaultPerByteFee := 1
  stateCommitmentFee := 0
  feeToken := BytesN.ofNat 20 1
  admin := BytesN.ofNat 20 2
  handler := BytesN.ofNat 20 3
  hostManager := BytesN.ofNat 20 4
  uniswapV2 := BytesN.ofNat 20 5
  unStakingPeriod := 86400
  challengePeriod := 0
  consensusClient := BytesN.ofNat 20 6
  stateMachines := ⟨[3367], one_le_thousand⟩
  perByteFees := ⟨[⟨bscHash, 5⟩], one_le_thousand⟩
  hyperbridge := ⟨asBytes "POLKADOT-3367", length_hyperbridge_le⟩

end Hyperbridge.HostExecutive

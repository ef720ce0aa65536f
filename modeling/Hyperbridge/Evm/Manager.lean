import Hyperbridge.Evm.Host
import Hyperbridge.Lib.Abi

/-!
# Governance of the EVM host

Through `HostManager` Hyperbridge sets the parameters of an `EvmHost` or pays out its revenue. It takes messages from
its host only, with the source that the host calls Hyperbridge; the host takes new parameters only from the manager it
knows, or off the main network from its admin. All parameters are replaced but the fees per byte: these go to a mapping
from which no entry is removed.
-/

namespace Hyperbridge.Evm.Manager

open Lib

structure PerByteFee where
  stateIdHash : H256
  perByteFee : U256
  deriving DecidableEq

structure MoreParams where
  stateCommitmentFee : U256
  feeToken : H160
  hostManager : H160
  uniswapV2 : H160
  consensusClient : H160
  stateMachines : List U256
  deriving DecidableEq

structure FullParams extends HostParams, MoreParams where
  perByteFees : List PerByteFee
  deriving DecidableEq

structure ManagedHost where
  host : Host
  more : MoreParams

namespace FullParams

def head (p : FullParams) (stateMachines perByteFees hyperbridge : Nat) : List H256 :=
  [p.defaultTimeout.toWord, p.defaultPerByteFee.toWord, p.stateCommitmentFee.toWord, addressWord p.feeToken,
    addressWord p.admin, addressWord p.handler, addressWord p.hostManager, addressWord p.uniswapV2,
    p.unStakingPeriod.toWord, p.challengePeriod.toWord, addressWord p.consensusClient, BytesN.ofNat 32 stateMachines,
    BytesN.ofNat 32 perByteFees, BytesN.ofNat 32 hyperbridge]

variable (fees : List PerByteFee)

def feeWords : List H256 := fees.flatMap fun fee => [fee.stateIdHash, fee.perByteFee.toWord]

def feesOfWords : List H256 → List PerByteFee
  | hash :: fee :: rest => ⟨hash, U256.ofWord fee⟩ :: feesOfWords rest
  | _ => []

/-- `abi.encode(HostParams)`. -/
def abiEncode (p : FullParams) : Bytes :=
  let stateMachines := abiArray p.stateMachines.length (p.stateMachines.map U256.toWord)
  let fees := abiArray p.perByteFees.length (feeWords p.perByteFees)
  let atFees := 448 + stateMachines.length
  (BytesN.ofNat 32 32).bytes ++ (abiWords (p.head 448 atFees (atFees + fees.length)) ++
    (stateMachines ++ (fees ++ abiBytes p.hyperbridge)))

/-- `abi.decode(…, (HostParams))`. -/
def read (data : Bytes) : Option FullParams := do
  let tuple ← abiTail data 0
  let defaultTimeout ← abiWord tuple 0
  let defaultPerByteFee ← abiWord tuple 1
  let stateCommitmentFee ← abiWord tuple 2
  let feeToken ← abiWord tuple 3 >>= readAddress
  let admin ← abiWord tuple 4 >>= readAddress
  let handler ← abiWord tuple 5 >>= readAddress
  let hostManager ← abiWord tuple 6 >>= readAddress
  let uniswapV2 ← abiWord tuple 7 >>= readAddress
  let unStakingPeriod ← abiWord tuple 8
  let challengePeriod ← abiWord tuple 9
  let consensusClient ← abiWord tuple 10 >>= readAddress
  let stateMachines ← abiTail tuple 11 >>= readArray 1
  let perByteFees ← abiTail tuple 12 >>= readArray 2
  let hyperbridge ← abiTail tuple 13 >>= readBytes
  some
    { defaultTimeout := U256.ofWord defaultTimeout, defaultPerByteFee := U256.ofWord defaultPerByteFee
      admin := admin, handler := handler, unStakingPeriod := U256.ofWord unStakingPeriod
      challengePeriod := U256.ofWord challengePeriod, hyperbridge := hyperbridge
      stateCommitmentFee := U256.ofWord stateCommitmentFee, feeToken := feeToken, hostManager := hostManager
      uniswapV2 := uniswapV2, consensusClient := consensusClient, stateMachines := stateMachines.map U256.ofWord
      perByteFees := feesOfWords perByteFees }

theorem feesOfWords_feeWords : feesOfWords (feeWords fees) = fees := by
  induction fees with
  | nil => rfl
  | cons fee fees ih =>
    show ⟨fee.stateIdHash, U256.ofWord fee.perByteFee.toWord⟩ :: feesOfWords (feeWords fees) = fee :: fees
    rw [U256.ofWord_toWord, ih]

theorem length_feeWords : (feeWords fees).length = fees.length * 2 := by
  induction fees with
  | nil => rfl
  | cons fee fees ih =>
    have hcons : (feeWords (fee :: fees)).length = (feeWords fees).length + 2 := rfl
    rw [hcons, ih, List.length_cons]
    omega

theorem length_abiArray (n : Nat) (ws : List H256) : (abiArray n ws).length = 32 * (ws.length + 1) := by
  rw [abiArray, List.length_append, length_abiWords, BytesN.length_bytes]
  omega

theorem read_of_parts {data tuple : Bytes} {p : FullParams} {i j k : Nat} (hstart : abiTail data 0 = some tuple)
    (hword : ∀ n < 14, abiWord tuple n = (p.head i j k)[n]?)
    (hmachines : (abiTail tuple 11 >>= readArray 1) = some (p.stateMachines.map U256.toWord))
    (hfees : (abiTail tuple 12 >>= readArray 2) = some (feeWords p.perByteFees))
    (hhyperbridge : (abiTail tuple 13 >>= readBytes) = some p.hyperbridge) : read data = some p := by
  have hids : (p.stateMachines.map U256.toWord).map U256.ofWord = p.stateMachines := by
    rw [List.map_map]
    exact (List.map_congr_left fun n _ => U256.ofWord_toWord n).trans (List.map_id _)
  have h0 : abiWord tuple 0 = some p.defaultTimeout.toWord := hword 0 (by omega)
  have h1 : abiWord tuple 1 = some p.defaultPerByteFee.toWord := hword 1 (by omega)
  have h2 : abiWord tuple 2 = some p.stateCommitmentFee.toWord := hword 2 (by omega)
  have h8 : abiWord tuple 8 = some p.unStakingPeriod.toWord := hword 8 (by omega)
  have h9 : abiWord tuple 9 = some p.challengePeriod.toWord := hword 9 (by omega)
  have haddress (n : Nat) (a : H160) (hn : n < 14) (hget : (p.head i j k)[n]? = some (addressWord a)) :
      (abiWord tuple n >>= readAddress) = some a :=
    bind_of_eq_some ((hword n hn).trans hget) (readAddress_addressWord a)
  have h3 := haddress 3 p.feeToken (by omega) rfl
  have h4 := haddress 4 p.admin (by omega) rfl
  have h5 := haddress 5 p.handler (by omega) rfl
  have h6 := haddress 6 p.hostManager (by omega) rfl
  have h7 := haddress 7 p.uniswapV2 (by omega) rfl
  have h10 := haddress 10 p.consensusClient (by omega) rfl
  unfold read
  refine bind_of_eq_some hstart (bind_of_eq_some h0 (bind_of_eq_some h1 (bind_of_eq_some h2 ?_)))
  refine bind_of_eq_some h3 (bind_of_eq_some h4 (bind_of_eq_some h5 (bind_of_eq_some h6 (bind_of_eq_some h7 ?_))))
  refine bind_of_eq_some h8 (bind_of_eq_some h9 (bind_of_eq_some h10 ?_))
  refine bind_of_eq_some hmachines (bind_of_eq_some hfees (bind_of_eq_some hhyperbridge ?_))
  simp only [hids, feesOfWords_feeWords, U256.ofWord_toWord]

theorem read_abiEncode (p : FullParams) (hmachines : p.stateMachines.length < 2 ^ 64)
    (hfees : p.perByteFees.length < 2 ^ 64) (hhyperbridge : p.hyperbridge.length < 2 ^ 64) :
    read p.abiEncode = some p := by
  set machines := abiArray p.stateMachines.length (p.stateMachines.map U256.toWord) with hmachinesDef
  set fees := abiArray p.perByteFees.length (feeWords p.perByteFees) with hfeesDef
  set head := p.head 448 (448 + machines.length) (448 + machines.length + fees.length) with hhead
  set tuple := abiWords head ++ (machines ++ (fees ++ abiBytes p.hyperbridge)) with htuple
  have hmachinesLen : machines.length < 2 ^ 128 := by
    rw [hmachinesDef, length_abiArray, List.length_map]
    omega
  have hfeesLen : fees.length < 2 ^ 128 := by
    rw [hfeesDef, length_abiArray, length_feeWords]
    omega
  have hword (i : Nat) (hi : i < 14) : abiWord tuple i = head[i]? := abiWord_abiWords (show i < head.length from hi) _
  have hwords : (abiWords head).length = 448 := length_abiWords head
  have hstart : abiTail p.abiEncode 0 = some tuple :=
    abiTail_of_word rfl (by rw [BytesN.length_bytes]; omega) (abiWord_cons_zero _ _)
  have hatMachines : abiTail tuple 11 = some (machines ++ (fees ++ abiBytes p.hyperbridge)) :=
    abiTail_of_word htuple (by omega) ((hword 11 (by omega)).trans (by rw [hwords]; rfl))
  have hatFees : abiTail tuple 12 = some (fees ++ abiBytes p.hyperbridge) := by
    have hfront : (abiWords head ++ machines).length = 448 + machines.length := by rw [List.length_append, hwords]
    refine abiTail_of_word (htuple.trans (List.append_assoc ..).symm) (by omega) ?_
    rw [hfront]
    exact hword 12 (by omega)
  have hatHyperbridge : abiTail tuple 13 = some (abiBytes p.hyperbridge ++ []) := by
    have hfront : (abiWords head ++ machines ++ fees).length = 448 + machines.length + fees.length := by
      rw [List.length_append, List.length_append, hwords]
    refine abiTail_of_word (by rw [htuple, List.append_nil, List.append_assoc, List.append_assoc]) (by omega) ?_
    rw [hfront]
    exact hword 13 (by omega)
  apply read_of_parts hstart hword
  · exact bind_of_eq_some hatMachines (readArray_abiArray (by omega) (by rw [List.length_map, Nat.mul_one]) _)
  · exact bind_of_eq_some hatFees (readArray_abiArray (by omega) (length_feeWords _) _)
  · exact bind_of_eq_some hatHyperbridge (readBytes_abiBytes (by omega) [])

end FullParams

structure WithdrawParams where
  beneficiary : H160
  amount : U256
  native : Bool
  deriving DecidableEq

def WithdrawParams.read (data : Bytes) : Option WithdrawParams := do
  let beneficiary ← abiWord data 0 >>= readAddress
  let amount ← abiWord data 1
  let native ← abiWord data 2 >>= readBool
  some ⟨beneficiary, U256.ofWord amount, native⟩

inductive Interface where
  | ismpModule
  | handler
  | consensusClient
  deriving DecidableEq

structure HostManagerParams where
  admin : H160
  host : H160
  deriving DecidableEq

structure Environment where
  host : H160
  chainid : U256
  hasCode : H160 → Bool
  supportsInterface : H160 → Interface → Call Bool
  balanceOf : H160 → Call U256
  withdraw : WithdrawParams → Call Unit
  managers : H160 → Option HostManagerParams

variable (L : Libraries) (env : Environment)

def checkContract (a : H160) (i : Interface) (e : String) : Call Unit := do
  revertIf (a = BytesN.zero 20 ∨ env.hasCode a = false) (.error e)
  let supported ← env.supportsInterface a i
  revertIf (supported = false) (.error e)

def checkParams (h : ManagedHost) (p : FullParams) : Call Unit := do
  checkContract env p.hostManager .ismpModule "InvalidHostManager"
  checkContract env p.handler .handler "InvalidHandler"
  checkContract env p.consensusClient .consensusClient "InvalidConsensusClient"
  revertIf (L.keccak256 p.hyperbridge = L.keccak256 []) (.error "InvalidHyperbridgeId")
  revertIf (p.stateMachines = []) (.error "InvalidStateMachinesLength")
  revertIf (p.unStakingPeriod.toNat < 86400) (.error "InvalidUnstakingPeriod")
  if h.more.feeToken ≠ BytesN.zero 20 ∧ h.more.feeToken ≠ p.feeToken then
    let balance ← env.balanceOf h.more.feeToken
    revertIf (balance ≠ 0) (.error "CannotChangeFeeToken")
  else pure ()

variable (fees : List PerByteFee)

/-- The fees per byte, written entry by entry. -/
def addFees (m : H256 → U256) : H256 → U256 :=
  fees.foldl (fun m fee => Function.update m fee.stateIdHash fee.perByteFee) m

def addStateMachines (ids : List U256) (m : U256 → U256) : U256 → U256 :=
  ids.foldl (fun m id => if m id = 0 then Function.update m id 1 else m) m

/-- `updateHostParamsInternal` after its checks. -/
def setParams (p : FullParams) (h : ManagedHost) : ManagedHost where
  host :=
    { h.host with
      hostParams := p.toHostParams
      perByteFees := addFees p.perByteFees h.host.perByteFees
      latestStateMachineHeight := addStateMachines p.stateMachines h.host.latestStateMachineHeight }
  more := p.toMoreParams

def updateHostParamsInternal (p : FullParams) (h : ManagedHost) : Call ManagedHost := do
  checkParams L env h p
  pure (setParams p h)

def resetHeights (ids : List U256) (h : ManagedHost) : ManagedHost :=
  { h with
    host := { h.host with
      latestStateMachineHeight := ids.foldl (fun m id => Function.update m id 0) h.host.latestStateMachineHeight } }

def updateHostParams (caller : H160) (p : FullParams) (h : ManagedHost) : Call ManagedHost := do
  revertIf (caller ≠ h.more.hostManager ∧ caller ≠ h.host.hostParams.admin) (.error "UnauthorizedAction")
  if caller = h.host.hostParams.admin then
    revertIf (L.chainId = env.chainid) (.error "UnauthorizedAction")
    updateHostParamsInternal L env p (resetHeights p.stateMachines h)
  else updateHostParamsInternal L env p h

/-- Revenue is no part of the model. -/
def withdraw (caller : H160) (p : WithdrawParams) (h : ManagedHost) : Call ManagedHost := do
  revertIf (caller ≠ h.more.hostManager) (.error "UnauthorizedAction")
  env.withdraw p
  pure h

def onAccept (this : H160) (params : HostManagerParams) (caller : H160) (request : PostRequest) (h : ManagedHost) :
    Call ManagedHost := do
  revertIf (caller ≠ params.host) (.error "UnauthorizedAction")
  revertIf (request.source ≠ h.host.hostParams.hyperbridge) (.error "UnauthorizedAction")
  match request.body with
  | [] => .error (.panic 0x32)
  | action :: data =>
      if action = 0 then
        let p ← okOr (WithdrawParams.read data) (.require "")
        withdraw env this p h
      else if action = 1 then
        let p ← okOr (FullParams.read data) (.require "")
        updateHostParams L env this p h
      else .error (.panic 0x21)

def callManager (address : H160) (request : PostRequest) (h : ManagedHost) : ManagedHost × Bool :=
  match env.managers address with
  | none => (h, true)
  | some params =>
      match onAccept L env address params env.host request h with
      | .ok h' => (h', true)
      | .error _ => (h, false)

def setReceipt (commitment : H256) (relayer : H160) (h : ManagedHost) : ManagedHost :=
  { h with host := setRequestReceipt commitment relayer h.host }

def dispatchIncoming (request : PostRequest) (relayer : H160) (h : ManagedHost) : Call ManagedHost := do
  let address ← bytesToAddress request.toModule
  if env.hasCode address then
    let commitment := L.hashPost request
    let (h', success) := callManager L env address request (setReceipt commitment relayer h)
    pure (if success then h' else setReceipt commitment (BytesN.zero 20) h')
  else pure h

def managerModule (address : H160) (request : PostRequest) (more : MoreParams) : Module where
  hasCode := env.hasCode address
  call w :=
    let (h, success) := callManager L env address request ⟨w.host, more⟩
    (⟨h.host, w.trace⟩, success)

theorem dispatchIncoming_eq_post {address : H160} {request : PostRequest}
    (haddress : bytesToAddress request.toModule = .ok address) (relayer : H160) (h : ManagedHost) (trace : List Trace) :
    ∃ h' w', dispatchIncoming L env request relayer h = .ok h' ∧
      (dispatchIncomingPost L request relayer (managerModule L env address request h.more)).run ⟨h.host, trace⟩ =
        (.ok (), w') ∧ w'.host = h'.host := by
  unfold dispatchIncoming dispatchIncomingPost
  rw [haddress]
  by_cases hcode : env.hasCode address
  · obtain ⟨w', hrun, hw'⟩ := deliver_host (.onAccept request) (hasRequestReceipt (L.hashPost request))
      (setRequestReceipt (L.hashPost request) relayer) (setRequestReceipt (L.hashPost request) (BytesN.zero 20))
      (.postRequestHandled (L.hashPost request) relayer) (managerModule L env address request h.more) ⟨h.host, trace⟩
    let called := callManager L env address request (setReceipt (L.hashPost request) relayer h)
    have hhost : w'.host = if called.2 then called.1.host
        else (setReceipt (L.hashPost request) (BytesN.zero 20) called.1).host := hw'
    refine ⟨if called.2 then called.1 else setReceipt (L.hashPost request) (BytesN.zero 20) called.1, w',
      if_pos hcode, ?_, ?_⟩
    · exact (congrArg (fun x : Code Unit => x.run ⟨h.host, trace⟩) (if_pos hcode)).trans hrun
    · rw [hhost, apply_ite ManagedHost.host]
  · exact ⟨h, ⟨h.host, trace⟩, if_neg hcode,
      congrArg (fun x : Code Unit => x.run ⟨h.host, trace⟩) (if_neg hcode), rfl⟩

variable {L env} {h : ManagedHost} {p : FullParams} {request : PostRequest} {relayer this : H160}

structure Accepts (L : Libraries) (env : Environment) (h : ManagedHost) (this : H160) (source : Bytes) : Prop where
  attached : ∃ params, env.managers this = some params ∧ params.host = env.host
  source : source = h.host.hostParams.hyperbridge
  caller : this = h.more.hostManager ∨ this = h.host.hostParams.admin
  testnet : this = h.host.hostParams.admin → L.chainId ≠ env.chainid

def SameParams (h h' : ManagedHost) : Prop :=
  h'.host.hostParams = h.host.hostParams ∧ h'.more = h.more ∧ h'.host.perByteFees = h.host.perByteFees

theorem checkParams_congr {h h' : ManagedHost} (hmore : h'.more = h.more) (p : FullParams) :
    checkParams L env h' p = checkParams L env h p := by
  rw [checkParams, checkParams, hmore]

theorem updateHostParams_of_valid (hvalid : checkParams L env h p = .ok ()) (caller : H160) :
    (caller = h.more.hostManager ∨ caller = h.host.hostParams.admin) ∧
        (caller = h.host.hostParams.admin → L.chainId ≠ env.chainid) ∧
        (∃ h', updateHostParams L env caller p h = .ok h' ∧ SameParams (setParams p h) h') ∨
      ¬ ((caller = h.more.hostManager ∨ caller = h.host.hostParams.admin) ∧
        (caller = h.host.hostParams.admin → L.chainId ≠ env.chainid)) ∧
        ∃ e, updateHostParams L env caller p h = .error e := by
  unfold updateHostParams revertIf
  by_cases hadmin : caller = h.host.hostParams.admin
  · by_cases hmain : L.chainId = env.chainid
    · right
      refine ⟨fun h => h.2 hadmin hmain, .error "UnauthorizedAction", ?_⟩
      rw [if_neg (fun h => h.2 hadmin), if_pos hadmin, if_pos hmain]
      rfl
    · left
      refine ⟨.inr hadmin, fun _ => hmain, setParams p (resetHeights p.stateMachines h), ?_, rfl, rfl, rfl⟩
      rw [if_neg (fun h => h.2 hadmin), if_pos hadmin, if_neg hmain]
      have hchecked : checkParams L env (resetHeights p.stateMachines h) p = .ok () :=
        (checkParams_congr rfl p).trans hvalid
      exact except_bind_ok.mpr ⟨(), rfl, except_bind_ok.mpr ⟨(), rfl, except_bind_ok.mpr ⟨(), hchecked, rfl⟩⟩⟩
  · by_cases hmanager : caller = h.more.hostManager
    · left
      refine ⟨.inl hmanager, fun h => absurd h hadmin, setParams p h, ?_, rfl, rfl, rfl⟩
      rw [if_neg (fun h => h.1 hmanager), if_neg hadmin]
      exact except_bind_ok.mpr ⟨(), rfl, except_bind_ok.mpr ⟨(), hvalid, rfl⟩⟩
    · right
      refine ⟨fun h => h.1.elim hmanager hadmin, .error "UnauthorizedAction", ?_⟩
      rw [if_pos ⟨hmanager, hadmin⟩]
      rfl

theorem hasCode_of_valid (hvalid : checkParams L env h p = .ok ()) : env.hasCode p.hostManager = true := by
  obtain ⟨_, hmanager, -⟩ := except_bind_ok.mp hvalid
  obtain ⟨_, hcode, -⟩ := except_bind_ok.mp hmanager
  have hnot := not_or.mp (revertIf_ok.mp hcode)
  exact Bool.not_eq_false _ ▸ hnot.2

structure FullParams.Sized (p : FullParams) : Prop where
  stateMachines : p.stateMachines.length < 2 ^ 64
  perByteFees : p.perByteFees.length < 2 ^ 64
  hyperbridge : p.hyperbridge.length < 2 ^ 64

theorem onAccept_setHostParam {params : HostManagerParams} {caller : H160} {data : Bytes}
    (hcaller : caller = params.host)
    (hsource : request.source = h.host.hostParams.hyperbridge) (hbody : request.body = 1 :: data)
    (hread : FullParams.read data = some p) :
    onAccept L env this params caller request h = updateHostParams L env this p h := by
  have hfirst : revertIf (caller ≠ params.host) (.error "UnauthorizedAction") = .ok () :=
    revertIf_ok.mpr (not_not.mpr hcaller)
  have hsecond : revertIf (request.source ≠ h.host.hostParams.hyperbridge) (.error "UnauthorizedAction") = .ok () :=
    revertIf_ok.mpr (not_not.mpr hsource)
  rw [onAccept, hfirst, hsecond, hbody]
  simp [Bind.bind, Except.bind, okOr, hread]

theorem onAccept_unauthorized {params : HostManagerParams}
    (h' : ¬ (env.host = params.host ∧ request.source = h.host.hostParams.hyperbridge)) :
    ∃ e, onAccept L env this params env.host request h = .error e := by
  unfold onAccept revertIf
  by_cases hhost : env.host = params.host
  · have hsource : request.source ≠ h.host.hostParams.hyperbridge := fun hsource => h' ⟨hhost, hsource⟩
    rw [if_neg (fun hne => hne hhost), if_pos hsource]
    exact ⟨_, rfl⟩
  · rw [if_pos hhost]
    exact ⟨_, rfl⟩

theorem attached_iff {params : HostManagerParams} (hmanager : env.managers this = some params) :
    (∃ params, env.managers this = some params ∧ params.host = env.host) ↔ env.host = params.host := by
  rw [hmanager]
  constructor
  · rintro ⟨params', hparams, hhost⟩
    rw [← Option.some.inj hparams] at hhost
    exact hhost.symm
  · intro hhost
    exact ⟨params, rfl, hhost.symm⟩

theorem callManager_of_valid (hvalid : checkParams L env h p = .ok ()) (hsized : p.Sized)
    (hbody : request.body = 1 :: p.abiEncode) (this : H160) :
    (Accepts L env h this request.source ∧ ∃ h', callManager L env this request h = (h', true) ∧
        SameParams (setParams p h) h') ∨
      ¬ Accepts L env h this request.source ∧ ∃ success, callManager L env this request h = (h, success) := by
  unfold callManager
  cases hmanager : env.managers this with
  | none =>
    right
    refine ⟨?_, true, rfl⟩
    intro haccepts
    obtain ⟨params, hparams, -⟩ := haccepts.attached
    rw [hmanager] at hparams
    cases hparams
  | some params =>
    have hattached := attached_iff hmanager
    dsimp only
    by_cases hauthorized : env.host = params.host ∧ request.source = h.host.hostParams.hyperbridge
    · have hread : FullParams.read p.abiEncode = some p :=
        p.read_abiEncode hsized.stateMachines hsized.perByteFees hsized.hyperbridge
      rw [onAccept_setHostParam hauthorized.1 hauthorized.2 hbody hread]
      rcases updateHostParams_of_valid hvalid this with ⟨hcaller, htestnet, h', hok, hsame⟩ | ⟨hnot, e, herror⟩
      · left
        rw [hok]
        exact ⟨⟨hattached.mpr hauthorized.1, hauthorized.2, hcaller, htestnet⟩, h', rfl, hsame⟩
      · right
        rw [herror]
        exact ⟨fun haccepts => hnot ⟨haccepts.caller, haccepts.testnet⟩, false, rfl⟩
    · right
      obtain ⟨e, herror⟩ := onAccept_unauthorized hauthorized
      refine ⟨fun haccepts => hauthorized ⟨hattached.mp haccepts.attached, haccepts.source⟩, false, ?_⟩
      rw [herror]

theorem dispatchIncoming_of_valid (hvalid : checkParams L env h p = .ok ()) (hsized : p.Sized)
    (hto : request.toModule = p.hostManager.bytes) (hbody : request.body = 1 :: p.abiEncode) (relayer : H160) :
    ∃ h', dispatchIncoming L env request relayer h = .ok h' ∧
      (Accepts L env h p.hostManager request.source ∧ SameParams (setParams p h) h' ∨
        ¬ Accepts L env h p.hostManager request.source ∧ SameParams h h') := by
  have haddress : bytesToAddress request.toModule = .ok p.hostManager := by
    rw [hto, bytesToAddress, dif_pos p.hostManager.length_bytes]
    rfl
  have hmarked : checkParams L env (setReceipt (L.hashPost request) relayer h) p = .ok () :=
    (checkParams_congr rfl p).trans hvalid
  unfold dispatchIncoming
  rw [haddress]
  dsimp only [Bind.bind, Except.bind]
  rw [if_pos (hasCode_of_valid hvalid)]
  rcases callManager_of_valid hmarked hsized hbody p.hostManager with ⟨haccepts, h', hrun, hsame⟩ |
    ⟨hnot, success, hrun⟩
  · rw [hrun]
    refine ⟨h', rfl, .inl ⟨⟨haccepts.attached, haccepts.source, haccepts.caller, haccepts.testnet⟩, hsame⟩⟩
  · rw [hrun]
    refine ⟨_, rfl, .inr ⟨fun h => hnot ⟨h.attached, h.source, h.caller, h.testnet⟩, ?_⟩⟩
    cases success <;> exact ⟨rfl, rfl, rfl⟩

/-- The last entry of the list counts. -/
def listedFee (hash : H256) : Option U256 :=
  (fees.reverse.find? fun fee => fee.stateIdHash = hash).map PerByteFee.perByteFee

theorem addFees_apply (m : H256 → U256) (hash : H256) :
    addFees fees m hash = (listedFee fees hash).getD (m hash) := by
  induction fees using List.reverseRecOn with
  | nil => rfl
  | append_singleton fees fee ih =>
    have hlast : addFees (fees ++ [fee]) m = Function.update (addFees fees m) fee.stateIdHash fee.perByteFee := by
      rw [addFees, List.foldl_append]
      rfl
    rw [hlast, listedFee, List.reverse_append, List.reverse_singleton, List.singleton_append, List.find?_cons]
    by_cases hhash : fee.stateIdHash = hash
    · subst hhash
      simp
    · rw [Function.update_of_ne (Ne.symm hhash), ih]
      simp [hhash, listedFee]

end Hyperbridge.Evm.Manager

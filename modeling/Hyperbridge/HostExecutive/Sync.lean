import Hyperbridge.HostExecutive.Pallet

/-!
# Copies of host parameters

Hyperbridge changes its copy of the parameters of an EVM host before the host is told, so the two agree only as long as
the host takes every message. It takes none from a new host manager, which the message goes to when the manager changes,
and none from a chain it does not call Hyperbridge. And a fee per byte that is no longer listed stays, and one listed as
zero reads as the default.
-/

namespace Hyperbridge.HostExecutive

open Lib Exec Ismp
open PalletHyperbridge (palletIsmp)
open Evm.Manager (ManagedHost Environment Accepts SameParams listedFee)

variable {Other : Type} {T : Config Other} {K : Runtime Other} {L : Evm.Libraries} {chain : StateMachine}
  {p p' : EvmHostParam} {h h' : ManagedHost}

structure Mirrors (L : Evm.Libraries) (p : EvmHostParam) (h : ManagedHost) : Prop where
  params : h.host.hostParams = p.toAbi.toHostParams
  more : h.more = p.toAbi.toMoreParams
  fees : ∀ stateId, Evm.perByteFee L stateId h.host = p.feeOf (L.keccak256 stateId)

/-- The two copies have the same parameters and fees. -/
structure SameValues (L : Evm.Libraries) (p p' : EvmHostParam) : Prop where
  params : p'.toAbi.toHostParams = p.toAbi.toHostParams
  more : p'.toAbi.toMoreParams = p.toAbi.toMoreParams
  fees : ∀ stateId, p'.feeOf (L.keccak256 stateId) = p.feeOf (L.keccak256 stateId)

def FeesFit (L : Evm.Libraries) (h : ManagedHost) (p : EvmHostParam) : Prop :=
  ∀ stateId, match listedFee p.toAbi.perByteFees (L.keccak256 stateId) with
    | some fee => fee = 0 → p.defaultPerByteFee = 0
    | none => h.host.perByteFees (L.keccak256 stateId) = 0 ∨
        h.host.perByteFees (L.keccak256 stateId) = p.defaultPerByteFee

theorem Mirrors.congr (hsame : SameParams h h') (hmirrors : Mirrors L p h) : Mirrors L p h' := by
  obtain ⟨hparams, hmore, hfees⟩ := hsame
  refine ⟨hparams.trans hmirrors.params, hmore.trans hmirrors.more, ?_⟩
  intro stateId
  rw [← hmirrors.fees stateId, Evm.perByteFee, Evm.perByteFee, hfees, hparams]

theorem SameParams.symm (hsame : SameParams h h') : SameParams h' h := ⟨hsame.1.symm, hsame.2.1.symm, hsame.2.2.symm⟩

theorem mirrors_congr_iff (hsame : SameParams h h') : Mirrors L p h' ↔ Mirrors L p h :=
  ⟨Mirrors.congr (SameParams.symm hsame), Mirrors.congr hsame⟩

theorem mirrors_setParams_iff (h : ManagedHost) (p : EvmHostParam) :
    Mirrors L p (Evm.Manager.setParams p.toAbi h) ↔ FeesFit L h p := by
  have hfee (stateId : Bytes) : Evm.perByteFee L stateId (Evm.Manager.setParams p.toAbi h).host =
        p.feeOf (L.keccak256 stateId) ↔
      match listedFee p.toAbi.perByteFees (L.keccak256 stateId) with
      | some fee => fee = 0 → p.defaultPerByteFee = 0
      | none => h.host.perByteFees (L.keccak256 stateId) = 0 ∨
          h.host.perByteFees (L.keccak256 stateId) = p.defaultPerByteFee := by
    have hread : Evm.perByteFee L stateId (Evm.Manager.setParams p.toAbi h).host =
        if Evm.Manager.addFees p.toAbi.perByteFees h.host.perByteFees (L.keccak256 stateId) = 0 then p.defaultPerByteFee
        else Evm.Manager.addFees p.toAbi.perByteFees h.host.perByteFees (L.keccak256 stateId) := rfl
    rw [hread, Evm.Manager.addFees_apply, EvmHostParam.feeOf]
    cases listedFee p.toAbi.perByteFees (L.keccak256 stateId) with
    | some fee =>
      simp only [Option.getD_some]
      by_cases hzero : fee = 0
      · rw [if_pos hzero, hzero]
        exact ⟨fun h _ => h, fun h => h rfl⟩
      · rw [if_neg hzero]
        exact iff_of_true rfl fun h => absurd h hzero
    | none =>
      simp only [Option.getD_none]
      by_cases hzero : h.host.perByteFees (L.keccak256 stateId) = 0
      · rw [if_pos hzero]
        exact iff_of_true rfl (.inl hzero)
      · rw [if_neg hzero]
        exact (or_iff_right hzero).symm
  constructor
  · intro hmirrors stateId
    exact (hfee stateId).mp (hmirrors.fees stateId)
  · intro hfit
    exact ⟨rfl, rfl, fun stateId => (hfee stateId).mpr (hfit stateId)⟩

theorem Mirrors.iff_sameValues (hmirrors : Mirrors L p h) : Mirrors L p' h ↔ SameValues L p p' := by
  constructor
  · intro hmirrors'
    refine ⟨hmirrors'.params.symm.trans hmirrors.params, hmirrors'.more.symm.trans hmirrors.more, ?_⟩
    intro stateId
    exact (hmirrors'.fees stateId).symm.trans (hmirrors.fees stateId)
  · intro hsame
    refine ⟨hmirrors.params.trans hsame.params.symm, hmirrors.more.trans hsame.more.symm, ?_⟩
    intro stateId
    exact (hmirrors.fees stateId).trans (hsame.fees stateId).symm

structure System (Other : Type) where
  world : World Other
  evm : ManagedHost

structure Entry (Other : Type) where
  before : System Other
  env : Environment
  source : Bytes
  params : EvmHostParam
  update : EvmHostParamUpdate
  after : System Other

namespace Entry

variable {e : Entry Other}

def updated (e : Entry Other) : EvmHostParam := e.params.update e.update

def onEvm (r : Ismp.PostRequest) (source dest : Bytes) : Evm.PostRequest :=
  ⟨source, dest, r.nonce, r.fromModule, r.toModule, r.timeoutTimestamp, r.body⟩

structure Happens (T : Config Other) (K : Runtime Other) (L : Evm.Libraries) (chain : StateMachine) (e : Entry Other) :
    Prop where
  stored : paramsOf K e.before.world chain = some (.evmHostParam e.params)
  call : (updateHostParams K (palletIsmp T) chain (.evmHostParam e.update)).run e.before.world = (.ok (), e.after.world)
  source : T.hostStateMachine.toText = some e.source
  delivered : ∃ r dest relayer, stamped T e.before.world (.post (evmPost chain e.updated)) = .post r ∧
    chain.toText = some dest ∧
    Evm.Manager.dispatchIncoming L e.env (onEvm r e.source dest) relayer e.before.evm = .ok e.after.evm
  valid : Evm.Manager.checkParams L e.env e.before.evm e.updated.toAbi = .ok ()

/-- The host takes the new parameters. -/
def Taken (L : Evm.Libraries) (e : Entry Other) : Prop := Accepts L e.env e.before.evm e.updated.hostManager e.source

def Agrees (L : Evm.Libraries) (e : Entry Other) : Prop :=
  e.Taken L ∧ FeesFit L e.before.evm e.updated ∨ ¬ e.Taken L ∧ SameValues L e.params e.updated

theorem Happens.evm (hhappens : e.Happens T K L chain) :
    e.Taken L ∧ SameParams (Evm.Manager.setParams e.updated.toAbi e.before.evm) e.after.evm ∨
      ¬ e.Taken L ∧ SameParams e.before.evm e.after.evm := by
  obtain ⟨r, dest, relayer, hstamped, -, hdelivered⟩ := hhappens.delivered
  have hfields := Request.post.inj hstamped
  have hto : (onEvm r e.source dest).toModule = e.updated.toAbi.hostManager.bytes := by rw [← hfields]; rfl
  have hbody : (onEvm r e.source dest).body = 1 :: e.updated.toAbi.abiEncode := by rw [← hfields]; rfl
  obtain ⟨h', hrun, hcases⟩ :=
    Evm.Manager.dispatchIncoming_of_valid hhappens.valid e.updated.sized_toAbi hto hbody relayer
  rw [hdelivered] at hrun
  rw [Except.ok.inj hrun]
  exact hcases

end Entry

/-- The host has the parameters of the copy. -/
def Synced (K : Runtime Other) (L : Evm.Libraries) (chain : StateMachine) (s : System Other) : Prop :=
  ∃ p, paramsOf K s.world chain = some (.evmHostParam p) ∧ Mirrors L p s.evm

theorem synced_iff {s : System Other} (hstored : paramsOf K s.world chain = some (.evmHostParam p)) :
    Synced K L chain s ↔ Mirrors L p s.evm := by
  constructor
  · rintro ⟨p', hstored', hmirrors⟩
    rw [hstored] at hstored'
    obtain rfl := HostParam.evmHostParam.inj (Option.some.inj hstored')
    exact hmirrors
  · intro hmirrors
    exact ⟨p, hstored, hmirrors⟩

theorem Entry.Happens.synced_iff_agrees {e : Entry Other} (hhappens : e.Happens T K L chain)
    (hbefore : Synced K L chain e.before) : Synced K L chain e.after ↔ e.Agrees L := by
  have hstored := (updateHostParams_ok hhappens.stored hhappens.call).1
  have hmirrors := (synced_iff hhappens.stored).mp hbefore
  rw [synced_iff hstored, Entry.Agrees]
  rcases hhappens.evm with ⟨htaken, hsame⟩ | ⟨htaken, hsame⟩
  · rw [mirrors_congr_iff hsame, and_iff_right htaken, or_iff_left fun h => h.1 htaken]
    exact mirrors_setParams_iff e.before.evm e.updated
  · rw [mirrors_congr_iff hsame, and_iff_right htaken, or_iff_right fun h => htaken h.1]
    exact hmirrors.iff_sameValues

/-- Neither the copy nor the host's parameters change. -/
def Idle (K : Runtime Other) (chain : StateMachine) (s s' : System Other) : Prop :=
  paramsOf K s'.world chain = paramsOf K s.world chain ∧ SameParams s.evm s'.evm

inductive Run (T : Config Other) (K : Runtime Other) (L : Evm.Libraries) (chain : StateMachine) (s₀ : System Other) :
    List (Entry Other) → System Other → Prop
  | start : Run T K L chain s₀ [] s₀
  | idle {log : List (Entry Other)} {s s' : System Other} (hrun : Run T K L chain s₀ log s)
    (hidle : Idle K chain s s') :
      Run T K L chain s₀ log s'
  | update {log : List (Entry Other)} {e : Entry Other} (hrun : Run T K L chain s₀ log e.before)
      (hhappens : e.Happens T K L chain) : Run T K L chain s₀ (log ++ [e]) e.after

variable {s₀ s : System Other} {log : List (Entry Other)}

theorem Run.synced_end (hrun : Run T K L chain s₀ log s) (hstart : Synced K L chain s₀)
    (hall : ∀ e ∈ log, Synced K L chain e.after) : Synced K L chain s := by
  induction hrun with
  | start => exact hstart
  | idle _ hidle ih =>
    obtain ⟨p, hstored, hmirrors⟩ := ih hall
    exact ⟨p, hidle.1.trans hstored, hmirrors.congr hidle.2⟩
  | update => exact hall _ (by simp)

/-- The copy and the host agree after every update of a run exactly if every update is taken by the host with fees that
fit, or is not taken and changes nothing. -/
theorem host_params_in_sync_iff (hstart : Synced K L chain s₀) (hrun : Run T K L chain s₀ log s) :
    ((∀ e ∈ log, Synced K L chain e.after) ↔ ∀ e ∈ log, e.Agrees L) ∧
      ((∀ e ∈ log, e.Agrees L) → Synced K L chain s) := by
  have hiff : (∀ e ∈ log, Synced K L chain e.after) ↔ ∀ e ∈ log, e.Agrees L := by
    induction hrun with
    | start => simp
    | idle _ _ ih => exact ih
    | @update log e hrun hhappens ih =>
      rw [List.forall_mem_append, List.forall_mem_append, List.forall_mem_singleton, List.forall_mem_singleton, ← ih]
      refine and_congr_right fun hall => ?_
      exact hhappens.synced_iff_agrees (hrun.synced_end hstart hall)
  exact ⟨hiff, fun hagrees => hrun.synced_end hstart (hiff.mpr hagrees)⟩

def sampleRuntime : Runtime Storage where
  storage :=
    { get := id
      set := fun storage _ => storage
      get_set := fun _ _ => rfl
      set_get := fun _ => rfl
      set_set := fun _ _ _ => rfl }
  updateMessage _ := []

def sampleConfig : Config Storage :=
  runtimeConfig (.polkadot 3367) (.polkadot 2000) silentClient fun _ _ _ _ => .error "Token(FundsUnavailable)"

def sampleLibraries : Evm.Libraries where
  chainId := 1
  keccak256 := sampleDigest
  hashPost r := sampleDigest r.body
  hashGet _ := BytesN.zero 32
  hashPostResponse _ := BytesN.zero 32
  hashGetResponse _ := BytesN.zero 32
  evm _ := asBytes "EVM-1"
  verifyProof _ _ _ _ := .error (.require "")
  verifySubstrateProof _ _ _ := .error (.require "")

def sampleEnvironment : Environment where
  host := BytesN.ofNat 20 100
  chainid := 1
  hasCode _ := true
  supportsInterface _ _ := .ok true
  balanceOf _ := .ok 0
  withdraw _ := .ok ()
  managers _ := some ⟨BytesN.zero 20, BytesN.ofNat 20 100⟩

def startHost : ManagedHost :=
  Evm.Manager.setParams startParams.toAbi ⟨{ hostParams := startParams.toAbi.toHostParams },
    startParams.toAbi.toMoreParams⟩

def startWorld : World Storage :=
  ⟨{ trackingHost sampleHeight ⟨50, none, BytesN.zero 32⟩ 12000000000 with
      other := ⟨fun chain => if chain = .evm 1 then some (.evmHostParam startParams) else none⟩ }, []⟩

def startSystem : System Storage := ⟨startWorld, startHost⟩

theorem listedFee_startParams (hash : H256) :
    listedFee startParams.toAbi.perByteFees hash = if bscHash = hash then some 5 else none := by
  show ([(⟨bscHash, 5⟩ : Evm.Manager.PerByteFee)].find? fun fee => fee.stateIdHash = hash).map _ = _
  by_cases h : bscHash = hash <;> simp [h]

theorem synced_start : Synced sampleRuntime sampleLibraries (.evm 1) startSystem := by
  refine ⟨startParams, by rfl, (mirrors_setParams_iff _ _).mpr ?_⟩
  intro stateId
  rw [listedFee_startParams]
  split
  · next fee hfee =>
    split at hfee
    · cases hfee
      intro h
      exact absurd h (by decide)
    · cases hfee
  · exact .inl rfl

def worldAfter (update : EvmHostParamUpdate) : Outcome Error Unit × World Storage :=
  (updateHostParams sampleRuntime (palletIsmp sampleConfig) (.evm 1) (.evmHostParam update)).run startWorld

theorem exists_entry (update : EvmHostParamUpdate) (hsent : (worldAfter update).1.isOk = true)
    (hvalid : Evm.Manager.checkParams sampleLibraries sampleEnvironment startHost
      (startParams.update update).toAbi = .ok ()) :
    ∃ e : Entry Storage, e.Happens sampleConfig sampleRuntime sampleLibraries (.evm 1) ∧ e.before = startSystem ∧
      e.env = sampleEnvironment ∧ e.params = startParams ∧ e.update = update ∧ e.source = asBytes "POLKADOT-3367" := by
  have hsource : sampleConfig.hostStateMachine.toText = some (asBytes "POLKADOT-3367") := by decide
  have hdest : (StateMachine.evm 1).toText = some (asBytes "EVM-1") := by decide
  obtain ⟨_, hcall⟩ := exists_run_ok hsent
  let r : Ismp.PostRequest :=
    ⟨.polkadot 3367, .evm 1, 0, asBytes "hostexec", (startParams.update update).hostManager.bytes,
    0, 1 :: (startParams.update update).toAbi.abiEncode⟩
  have hto : (Entry.onEvm r (asBytes "POLKADOT-3367") (asBytes "EVM-1")).toModule =
    (startParams.update update).toAbi.hostManager.bytes := rfl
  obtain ⟨h', hdelivered, -⟩ := Evm.Manager.dispatchIncoming_of_valid hvalid (startParams.update update).sized_toAbi
    hto rfl (BytesN.ofNat 20 9)
  exact ⟨⟨startSystem, sampleEnvironment, asBytes "POLKADOT-3367", startParams, update, ⟨(worldAfter update).2, h'⟩⟩,
    ⟨by rfl, hcall, hsource, ⟨r, asBytes "EVM-1", BytesN.ofNat 20 9, rfl, hdest, hdelivered⟩, hvalid⟩,
    rfl, rfl, rfl, rfl, rfl⟩

theorem accepts_start : Accepts sampleLibraries sampleEnvironment startHost (BytesN.ofNat 20 4)
    (asBytes "POLKADOT-3367") where
  attached := ⟨_, rfl, rfl⟩
  source := rfl
  caller := .inl rfl
  testnet h := absurd h (by decide)

theorem host_params_in_sync_iff_sample :
    ∃ e : Entry Storage, e.Happens sampleConfig sampleRuntime sampleLibraries (.evm 1) ∧
      e.updated.defaultPerByteFee = 2 ∧ Synced sampleRuntime sampleLibraries (.evm 1) e.after := by
  obtain ⟨e, hhappens, hbefore, henv, hparams, hupdate, hsource⟩ :=
    exists_entry { defaultPerByteFee := some 2 } (by decide +kernel) (by decide +kernel)
  have hupdated : e.updated = startParams.update { defaultPerByteFee := some 2 } := by
    rw [Entry.updated, hparams, hupdate]
  have hrun : Run sampleConfig sampleRuntime sampleLibraries (.evm 1) startSystem ([] ++ [e]) e.after :=
    .update (hbefore ▸ .start) hhappens
  refine ⟨e, hhappens, by rw [hupdated]; rfl, (host_params_in_sync_iff synced_start hrun).2 ?_⟩
  intro e' he'
  obtain rfl := List.mem_singleton.mp he'
  left
  rw [Entry.Taken, hupdated, hbefore, henv, hsource]
  refine ⟨accepts_start, ?_⟩
  intro stateId
  have hfees : (startParams.update { defaultPerByteFee := some 2 }).toAbi.perByteFees =
    startParams.toAbi.perByteFees := rfl
  have hmap : startHost.host.perByteFees (sampleLibraries.keccak256 stateId) =
      (listedFee startParams.toAbi.perByteFees (sampleLibraries.keccak256 stateId)).getD 0 :=
    Evm.Manager.addFees_apply _ _ _
  rw [hfees]
  rw [listedFee_startParams] at hmap ⊢
  by_cases hbsc : bscHash = sampleLibraries.keccak256 stateId
  · rw [if_pos hbsc]
    intro h
    exact absurd h (by decide)
  · rw [if_neg hbsc] at hmap ⊢
    exact .inl hmap

/-- A new host manager gets the message and is not listened to. A fee that is taken off the list stays. -/
theorem host_params_out_of_sync :
    (∃ e : Entry Storage, e.Happens sampleConfig sampleRuntime sampleLibraries (.evm 1) ∧
      Synced sampleRuntime sampleLibraries (.evm 1) e.before ∧ e.updated.hostManager = BytesN.ofNat 20 7 ∧
      e.after.evm.more.hostManager = BytesN.ofNat 20 4) ∧
    ∃ e : Entry Storage, e.Happens sampleConfig sampleRuntime sampleLibraries (.evm 1) ∧
      Synced sampleRuntime sampleLibraries (.evm 1) e.before ∧ e.updated.feeOf bscHash = 1 ∧
      Evm.perByteFee sampleLibraries (asBytes "EVM-56") e.after.evm.host = 5 := by
  constructor
  · obtain ⟨e, hhappens, hbefore, henv, hparams, hupdate, hsource⟩ :=
      exists_entry { hostManager := some (BytesN.ofNat 20 7) } (by decide +kernel) (by decide +kernel)
    have hupdated : e.updated = startParams.update { hostManager := some (BytesN.ofNat 20 7) } := by
      rw [Entry.updated, hparams, hupdate]
    refine ⟨e, hhappens, hbefore ▸ synced_start, by rw [hupdated]; rfl, ?_⟩
    rcases hhappens.evm with ⟨htaken, -⟩ | ⟨-, hsame⟩
    · rw [Entry.Taken, hupdated, hbefore] at htaken
      exact absurd htaken.caller (by decide)
    · rw [hsame.2.1, hbefore]
      rfl
  · obtain ⟨e, hhappens, hbefore, henv, hparams, hupdate, hsource⟩ :=
      exists_entry { perByteFees := some ⟨[], Nat.zero_le 1000⟩ } (by decide +kernel) (by decide +kernel)
    have hupdated : e.updated = startParams.update { perByteFees := some ⟨[], Nat.zero_le 1000⟩ } := by
      rw [Entry.updated, hparams, hupdate]
    have htaken : e.Taken sampleLibraries := by
      rw [Entry.Taken, hupdated, hbefore, henv, hsource]
      exact accepts_start
    refine ⟨e, hhappens, hbefore ▸ synced_start, by rw [hupdated]; rfl, ?_⟩
    rcases hhappens.evm with ⟨-, hsame⟩ | ⟨hnot, -⟩
    · rw [Evm.perByteFee, hsame.2.2, hsame.1, hupdated, hbefore]
      decide +kernel
    · exact absurd htaken hnot

end Hyperbridge.HostExecutive

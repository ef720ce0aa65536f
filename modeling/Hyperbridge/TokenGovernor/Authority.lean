import Hyperbridge.TokenGovernor.Governor

/-!
# Who may update an asset

An update is to be made by root, by the owner of the asset, or by the chain through whose message it was registered. The
extrinsic checks the first two. A message is checked only for coming from a gateway pallet: wherever an update by
message has an effect, it has the same effect when another chain sends it, and at most one chain has registered the
asset.
-/

namespace Hyperbridge.TokenGovernor

open Lib Exec Ismp TokenGateway

variable {Other : Type} {T : Config Other} {K : Runtime Other} {w w' w₀ : World Other}

/-- No owner changes. -/
def SameOwners (K : Runtime Other) (w w' : World Other) : Prop :=
  (storageOf K w').assetOwners = (storageOf K w).assetOwners

instance : IsPreorder (World Other) (SameOwners K) where
  refl _ := rfl
  trans _ _ _ h h' := h'.trans h

structure Apart (T : Config Other) (K : Runtime Other) : Prop where
  transfer : ∀ source target amount o o', T.transfer source target amount o = .ok o' →
    K.storage.get o' = K.storage.get o
  mmrPush : ∀ leaf o, K.storage.get (T.mmrPush leaf o).2 = K.storage.get o

theorem storageOf_updateStorage (f : Storage → Storage) (w : World Other) :
    storageOf K (updateStorage K f w) = f (storageOf K w) := by
  show K.storage.get (K.storage.set _ _) = _
  rw [Lens.get_set]

theorem dispatchKeeps_sameOwners (hT : Apart T K) : DispatchKeeps T (SameOwners K) where
  transfer _ _ _ _ h := congrArg Storage.assetOwners (hT.transfer _ _ _ _ _ h)
  mmrPush w leaf := congrArg Storage.assetOwners (hT.mmrPush leaf w.host.other)
  nonce _ _ := rfl
  commit _ _ := rfl

theorem sameOwners_updateStorage {f : Storage → Storage}
    (hf : (f (storageOf K w)).assetOwners = (storageOf K w).assetOwners) : SameOwners K w (updateStorage K f w) := by
  rw [SameOwners, storageOf_updateStorage, hf]

theorem sameOwners_send (hT : Apart T K) (dest : StateMachine) (address : H160) (body : Bytes) :
    Keeps (SameOwners K) (send T dest address body) :=
  Keeps.bind (keeps_dispatchRequest (dispatchKeeps_sameOwners hT) _ _).mapErr fun _ => Keeps.pure _

theorem sameOwners_gatewayAddress (chain : StateMachine) : Keeps (SameOwners K) (gatewayAddress T K chain) := by
  unfold gatewayAddress
  split
  · exact Keeps.pure _
  · exact Keeps.query _

theorem sameOwners_deploy (hT : Apart T K) (assetId : H256) (metadata : AssetMetadata) (target : ChainWithSupply) :
    Keeps (SameOwners K) (deploy T K assetId metadata target) :=
  (sameOwners_gatewayAddress _).bind fun _ => (Keeps.ofExcept _).bind fun _ =>
    (sameOwners_send hT _ _ _).bind fun _ => Keeps.modify fun _ => sameOwners_updateStorage rfl

theorem sameOwners_deployErc20 (hT : Apart T K) (assetId : H256) (metadata : AssetMetadata)
    (target : AssetRegistration) : Keeps (SameOwners K) (deployErc20 T K assetId metadata target) :=
  (Keeps.ofExcept _).bind fun _ => Keeps.bind (Keeps.query _) fun _ =>
    (sameOwners_send hT _ _ _).bind fun _ => Keeps.modify fun _ => sameOwners_updateStorage rfl

theorem sameOwners_updateErc6160AssetImpl (hT : Apart T K) (update : ERC6160AssetUpdate) :
    Keeps (SameOwners K) (updateErc6160AssetImpl T K update) := by
  refine (Keeps.query _).bind fun metadata => (Keeps.forEach fun target _ => ?_).bind fun _ =>
    (Keeps.forEach fun chain _ => ?_).bind fun _ => Keeps.forEach fun change _ => ?_
  · refine (Keeps.gets _).bind fun supported => ?_
    split
    · exact Keeps.pure _
    · exact sameOwners_deploy hT _ _ _
  · refine (Keeps.gets _).bind fun supported => ?_
    split
    · exact (sameOwners_gatewayAddress _).bind fun _ => sameOwners_send hT _ _ _
    · exact Keeps.pure _
  · refine (Keeps.gets _).bind fun supported => ?_
    split
    · exact Keeps.bind (Keeps.query _) fun _ => sameOwners_send hT _ _ _
    · exact Keeps.pure _

/-- No owner changes, or one asset without an owner gets one. -/
def Registers (K : Runtime Other) (who : AccountId) (w w' : World Other) : Prop :=
  SameOwners K w w' ∨ ∃ assetId, (storageOf K w).assetOwners assetId = none ∧
    (storageOf K w').assetOwners = Function.update (storageOf K w).assetOwners assetId (some who)

variable {who : AccountId}

theorem Registers.of_same {w₁ : World Other} (h : SameOwners K w w₁) (h' : Registers K who w₁ w') :
    Registers K who w w' := by
  unfold Registers SameOwners at *
  rwa [h] at h'

theorem Registers.then_same {w₁ : World Other} (h : Registers K who w w₁) (h' : SameOwners K w₁ w') :
    Registers K who w w' := by
  unfold Registers SameOwners at *
  rwa [h']

theorem registers_of_parts {assetId : H256} {metadata : AssetMetadata}
    {deployments : Exec (World Other) Error Unit} (hkeeps : Keeps (SameOwners K) deployments)
    (hret : ((ensureNew K assetId >>= fun _ => deployments >>= fun _ =>
      modify (updateStorage K (insertAsset assetId metadata who))).run w).1.returns = true) :
    Registers K who w ((ensureNew K assetId >>= fun _ => deployments >>= fun _ =>
      modify (updateStorage K (insertAsset assetId metadata who))).run w).2 := by
  have hdeployed := hkeeps w
  rw [bind_run, ensureNew, gets_bind_run] at hret ⊢
  cases howner : (storageOf K w).assetOwners assetId with
  | some owner => exact .inl rfl
  | none =>
    rw [howner] at hret
    simp only [Option.isSome_none, throwIf, Bool.false_eq_true, if_false, pure_run, bind_run] at hret ⊢
    rcases hrun : deployments.run w with ⟨u | e | m, v⟩ <;> rw [hrun] at hdeployed hret
    · refine .inr ⟨assetId, howner, ?_⟩
      have hsame : (storageOf K v).assetOwners = (storageOf K w).assetOwners := hdeployed rfl
      simp only [modify_run, storageOf_updateStorage]
      rw [← hsame]
      rfl
    · exact .inl (hdeployed rfl)
    · cases hret

theorem registers_registerAsset (hT : Apart T K) {asset : ERC6160AssetRegistration}
    (hret : ((registerAsset T K asset who).run w).1.returns = true) :
    Registers K who w ((registerAsset T K asset who).run w).2 :=
  registers_of_parts (Keeps.forEach fun target _ => sameOwners_deploy hT _ _ target) hret

inductive Call where
  | createErc6160Asset (who : AccountId) (asset : ERC6160AssetRegistration)
  | createErc6160AssetUnsigned (registration : UnsignedERC6160AssetRegistration)
  | updateErc6160Asset (origin : Origin) (update : ERC6160AssetUpdate)
  | createErc20Asset (asset : ERC20AssetRegistration)
  | deregisterStandaloneChainNativeAssets (assets : List (StateMachine × H256))
  | accept (post : PostRequest)

def Call.Runs (T : Config Other) (K : Runtime Other) (w w' : World Other) : Call → Prop
  | createErc6160Asset who asset => (TokenGovernor.createErc6160Asset T K who asset).run w = (.ok (), w')
  | createErc6160AssetUnsigned registration => (registerAssetUnsigned T K registration).run w = (.ok (), w')
  | updateErc6160Asset origin update => (TokenGovernor.updateErc6160Asset T K origin update).run w = (.ok (), w')
  | createErc20Asset asset => (TokenGovernor.createErc20Asset T K asset).run w = (.ok (), w')
  | deregisterStandaloneChainNativeAssets assets =>
      (TokenGovernor.deregisterStandaloneChainNativeAssets K assets).run w = (.ok (), w')
  | accept post => ((onAccept T K post).run w).1.returns = true ∧ ((onAccept T K post).run w).2 = w'

theorem registers_of_ok {asset : ERC6160AssetRegistration} (hT : Apart T K)
    (h : (registerAsset T K asset who).run w = (.ok (), w')) : Registers K who w w' :=
  Keeps.of_ok (fun _ hret => registers_registerAsset hT hret) h

theorem registers_onRemote (hT : Apart T K) {source : StateMachine} {message : RemoteERC6160AssetRegistration}
    (hret : ((onRemote T K source message).run w).1.returns = true) :
    Registers K (chainAccount T source) w ((onRemote T K source message).run w).2 := by
  cases message with
  | updateAsset asset => exact .inl ((sameOwners_updateErc6160AssetImpl hT _).mapErr w hret)
  | createAsset asset =>
    have hreg : _ → Registers K (chainAccount T source) w
        ((registerAsset T K (.ofGateway asset) (chainAccount T source)).run w).2 := registers_registerAsset hT
    rw [onRemote, bind_run, mapErr_run] at hret ⊢
    rcases hrun : (registerAsset T K (.ofGateway asset) (chainAccount T source)).run w with ⟨u | e | m, v⟩ <;>
      rw [hrun] at hreg hret
    · exact (hreg rfl).then_same (sameOwners_updateStorage rfl)
    · exact hreg rfl
    · cases hret

theorem sameOwners_onRegistrar (post : PostRequest) : Keeps (SameOwners K) (onRegistrar K post) :=
  (Keeps.query _).bind fun _ => (Keeps.throwIf _ _).bind fun _ => (Keeps.ofExcept _).bind
    fun _ => (Keeps.gets _).bind fun _ =>
    (Keeps.throwIf _ _).bind fun _ => Keeps.modify fun _ => sameOwners_updateStorage rfl

variable {post : PostRequest}

theorem registers_onAccept (hT : Apart T K) (hret : ((onAccept T K post).run w).1.returns = true) :
    Registers K (chainAccount T post.source) w ((onAccept T K post).run w).2 := by
  unfold onAccept at hret ⊢
  split at hret
  · rename_i hgateway
    rw [if_pos hgateway]
    cases hread : Codecs.remoteRegistration.read post.body with
    | none => exact .inl rfl
    | some message =>
      rw [hread] at hret
      exact registers_onRemote hT hret
  · rename_i hgateway
    rw [if_neg hgateway]
    exact .inl (sameOwners_onRegistrar post w hret)

theorem sameOwners_checkSignature (assetId : H256) (signature : Bytes) :
    Keeps (SameOwners K) (checkSignature T K assetId signature) :=
  (Keeps.expect _ _).bind fun _ => (Keeps.ofExcept _).bind fun _ => (Keeps.query _).bind fun _ => Keeps.throwIf _ _

theorem sameOwners_ensureRootOrOwner (origin : Origin) (assetId : H256) :
    Keeps (SameOwners K) (ensureRootOrOwner K origin assetId) := by
  cases origin with
  | root => exact Keeps.pure _
  | signed who => exact (Keeps.query _).bind fun _ => Keeps.throwIf _ _
  | none => exact Keeps.throw _

theorem Call.registers (hT : Apart T K) {call : Call} (h : call.Runs T K w w') :
    ∃ who, Registers K who w w' ∧ ∀ post, call = .accept post → who = chainAccount T post.source := by
  cases call with
  | createErc6160Asset who asset =>
    obtain ⟨fee, -, h⟩ := query_bind_ok.mp h
    obtain ⟨_, v, hpay, h⟩ := bind_ok.mp h
    obtain ⟨other, hother, rfl⟩ := invoke_ok.mp hpay
    have hpaid : SameOwners K w (others.set other w) := congrArg Storage.assetOwners (hT.transfer _ _ _ _ _ hother)
    exact ⟨who, (registers_of_ok hT h).of_same hpaid, nofun⟩
  | createErc6160AssetUnsigned registration =>
    obtain ⟨_, v, hsigned, h⟩ := bind_ok.mp h
    obtain ⟨_, v', hregister, h⟩ := bind_ok.mp h
    have hchecked : SameOwners K w v := (sameOwners_checkSignature _ _).of_ok hsigned
    obtain ⟨-, rfl⟩ := Prod.mk.inj h
    have hregisters := (registers_of_ok hT hregister).of_same hchecked
    exact ⟨registration.owner, hregisters.then_same (sameOwners_updateStorage rfl), nofun⟩
  | updateErc6160Asset origin update =>
    obtain ⟨_, v, hauth, h⟩ := bind_ok.mp h
    have hchecked : SameOwners K w v := (sameOwners_ensureRootOrOwner _ _).of_ok hauth
    have hupdated : SameOwners K v w' := (sameOwners_updateErc6160AssetImpl hT _).of_ok h
    exact ⟨palletAccount, .inl (hupdated.trans hchecked), nofun⟩
  | createErc20Asset asset =>
    have hkeeps : Keeps (SameOwners K) (forEach (deployErc20 T K (T.keccak256 asset.symbol.1)
        ⟨asset.name, asset.symbol, 0, none⟩) asset.chains) :=
      Keeps.forEach fun target _ => sameOwners_deployErc20 hT _ _ target
    have hregisters : Keeps (Registers K palletAccount) (TokenGovernor.createErc20Asset T K asset) :=
      fun _ hret => registers_of_parts hkeeps hret
    exact ⟨palletAccount, hregisters.of_ok h, nofun⟩
  | deregisterStandaloneChainNativeAssets assets =>
    obtain ⟨-, rfl⟩ := Prod.mk.inj h
    exact ⟨palletAccount, .inl (sameOwners_updateStorage rfl), nofun⟩
  | accept post =>
    obtain ⟨hret, rfl⟩ := h
    refine ⟨chainAccount T post.source, registers_onAccept hT hret, fun post' heq => ?_⟩
    obtain rfl := Call.accept.inj heq
    rfl

inductive Run (T : Config Other) (K : Runtime Other) (w₀ : World Other) :
    List (World Other × Call × World Other) → World Other → Prop
  | start : Run T K w₀ [] w₀
  | call {log : List (World Other × Call × World Other)} {w w' : World Other} {call : Call} (run : Run T K w₀ log w)
      (hcall : call.Runs T K w w') : Run T K w₀ (log ++ [(w, call, w')]) w'
  | elsewhere {log : List (World Other × Call × World Other)} {w w' : World Other} (run : Run T K w₀ log w)
      (hsame : SameOwners K w w') : Run T K w₀ log w'

/-- The asset got an owner on the way. -/
def GotOwner (K : Runtime Other) (assetId : H256) (w w' : World Other) : Prop :=
  (storageOf K w).assetOwners assetId = none ∧ ((storageOf K w').assetOwners assetId).isSome

/-- A message of the chain made it the owner. -/
def RegisteredBy (K : Runtime Other) (log : List (World Other × Call × World Other)) (assetId : H256)
    (chain : StateMachine) : Prop :=
  ∃ v post v', (v, Call.accept post, v') ∈ log ∧ post.source = chain ∧ GotOwner K assetId v v'

variable {log : List (World Other × Call × World Other)} {assetId : H256}

theorem Registers.owner {owner : AccountId} (h : Registers K who w w')
    (howner : (storageOf K w).assetOwners assetId = some owner) :
    (storageOf K w').assetOwners assetId = some owner := by
  rcases h with hsame | ⟨assetId', hnone, hnew⟩
  · rw [hsame, howner]
  · have hne : assetId ≠ assetId' := by
      rintro rfl
      rw [hnone] at howner
      cases howner
    rw [hnew, Function.update_of_ne hne, howner]

theorem Registers.owner_of_got (h : Registers K who w w') (hgot : GotOwner K assetId w w') :
    (storageOf K w').assetOwners assetId = some who := by
  obtain ⟨hnone, hsome⟩ := hgot
  rcases h with hsame | ⟨assetId', -, hnew⟩
  · rw [hsame, hnone] at hsome
    cases hsome
  · rw [hnew] at hsome ⊢
    by_cases heq : assetId = assetId'
    · rw [heq, Function.update_self]
    · rw [Function.update_of_ne heq, hnone] at hsome
      cases hsome

structure Kept (T : Config Other) (K : Runtime Other) (log : List (World Other × Call × World Other)) (assetId : H256)
    (w : World Other) : Prop where
  owned : ∀ v call v', (v, call, v') ∈ log → GotOwner K assetId v v' →
    ∃ owner, (storageOf K w).assetOwners assetId = some owner ∧
      ∀ post, call = .accept post → owner = chainAccount T post.source
  once : ∀ e ∈ log, ∀ e' ∈ log, GotOwner K assetId e.1 e.2.2 → GotOwner K assetId e'.1 e'.2.2 → e = e'

theorem Run.kept (hT : Apart T K) (hrun : Run T K w₀ log w) (assetId : H256) : Kept T K log assetId w := by
  induction hrun with
  | start => exact ⟨fun _ _ _ h => absurd h List.not_mem_nil, fun _ h => absurd h List.not_mem_nil⟩
  | @call log w w' call run hcall ih =>
    obtain ⟨who, hreg, hchain⟩ := Call.registers hT hcall
    have hnot (hgot : GotOwner K assetId w w') (e) (he : e ∈ log) : ¬ GotOwner K assetId e.1 e.2.2 := by
      intro hearlier
      obtain ⟨owner, howner, -⟩ := ih.owned e.1 e.2.1 e.2.2 he hearlier
      rw [hgot.1] at howner
      cases howner
    constructor
    · intro v call' v' hmem hgot
      rcases List.mem_append.mp hmem with hmem | hmem
      · obtain ⟨owner, howner, hpost⟩ := ih.owned v call' v' hmem hgot
        exact ⟨owner, hreg.owner howner, hpost⟩
      · obtain ⟨rfl, rfl, rfl⟩ : v = w ∧ call' = call ∧ v' = w' := by simpa using hmem
        exact ⟨who, hreg.owner_of_got hgot, hchain⟩
    · intro e he e' he' hgot hgot'
      rcases List.mem_append.mp he with he | he <;> rcases List.mem_append.mp he' with he' | he'
      · exact ih.once e he e' he' hgot hgot'
      · obtain rfl := List.mem_singleton.mp he'
        exact absurd hgot (hnot hgot' e he)
      · obtain rfl := List.mem_singleton.mp he
        exact absurd hgot' (hnot hgot e' he')
      · exact (List.mem_singleton.mp he).trans (List.mem_singleton.mp he').symm
  | elsewhere run hsame ih =>
    refine ⟨fun v call v' hmem hgot => ?_, ih.once⟩
    rw [hsame]
    exact ih.owned v call v' hmem hgot

variable {chain : StateMachine}

theorem Kept.owner_of_registeredBy (h : Kept T K log assetId w)
    (hreg : RegisteredBy K log assetId chain) : (storageOf K w).assetOwners assetId = some (chainAccount T chain) := by
  obtain ⟨v, post, v', hmem, rfl, hgot⟩ := hreg
  obtain ⟨owner, howner, hchain⟩ := h.owned v _ v' hmem hgot
  rw [howner, hchain post rfl]

theorem Kept.registeredBy_unique {chain' : StateMachine} (h : Kept T K log assetId w)
    (hreg : RegisteredBy K log assetId chain) (hreg' : RegisteredBy K log assetId chain') : chain = chain' := by
  obtain ⟨v, post, v', hmem, rfl, hgot⟩ := hreg
  obtain ⟨u, post', u', hmem', rfl, hgot'⟩ := hreg'
  have hsame := h.once _ hmem _ hmem' hgot hgot'
  simp only [Prod.mk.injEq, Call.accept.injEq] at hsame
  rw [hsame.2.1]

/-- The two ways of an update. -/
inductive Path where
  | extrinsic (origin : Origin) (update : ERC6160AssetUpdate)
  | message (post : PostRequest)

/-- The update a message asks for. -/
def remoteUpdate (T : Config Other) (post : PostRequest) : Option ERC6160AssetUpdate :=
  if fromGatewayPallet T post then
    match Codecs.remoteRegistration.read post.body with
    | some (.updateAsset asset) => some (.ofGateway asset)
    | _ => none
  else none

def Path.update (T : Config Other) : Path → Option ERC6160AssetUpdate
  | extrinsic _ update => some update
  | message post => remoteUpdate T post

def Path.Runs (T : Config Other) (K : Runtime Other) (w w' : World Other) : Path → Prop
  | extrinsic origin update => (updateErc6160Asset T K origin update).run w = (.ok (), w')
  | message post => (onAccept T K post).run w = (.ok (), w')

/-- Some request was dispatched. -/
def Dispatches (w w' : World Other) : Prop := w'.host.requestCommitments ≠ w.host.requestCommitments

/-- By root, by the owner, or by the chain that registered it. -/
def Authorised (K : Runtime Other) (log : List (World Other × Call × World Other)) (w : World Other) (assetId : H256) :
    Path → Prop
  | .extrinsic origin _ => origin = .root ∨ ∃ who, origin = .signed who ∧ (storageOf K w).assetOwners assetId = some who
  | .message post => RegisteredBy K log assetId post.source

theorem ensureRootOrOwner_ok {origin : Origin} (h : (ensureRootOrOwner K origin assetId).run w = (.ok (), w')) :
    origin = .root ∨ ∃ who, origin = .signed who ∧ (storageOf K w).assetOwners assetId = some who := by
  cases origin with
  | root => exact .inl rfl
  | signed who =>
    obtain ⟨owner, howner, h⟩ := query_bind_ok.mp h
    obtain ⟨hwho, -⟩ := throwIf_ok.mp h
    have heq : who = owner := by simpa using hwho
    exact .inr ⟨who, rfl, (okOr_eq_ok.mp howner).trans (congrArg some heq.symm)⟩
  | none => cases h

variable {update : ERC6160AssetUpdate}

theorem extrinsic_authorised {origin : Origin} (h : (Path.extrinsic origin update).Runs T K w w') :
    Authorised K log w update.assetId (.extrinsic origin update) := by
  obtain ⟨_, v, hauth, -⟩ := bind_ok.mp h
  exact ensureRootOrOwner_ok hauth

theorem remoteUpdate_eq_some :
    remoteUpdate T post = some update ↔ fromGatewayPallet T post = true ∧
      ∃ asset, Codecs.remoteRegistration.read post.body = some (.updateAsset asset) ∧ .ofGateway asset = update := by
  unfold remoteUpdate
  by_cases hgateway : fromGatewayPallet T post = true
  · rw [if_pos hgateway]
    split
    · rename_i asset hread
      simp [hgateway, hread]
    · rename_i hread
      simp only [reduceCtorEq, false_iff, not_and, not_exists]
      exact fun _ asset hasset _ => hread asset hasset
  · simp [hgateway]

theorem onAccept_update (h : remoteUpdate T post = some update) :
    onAccept T K post = mapErr registrationFailed (updateErc6160AssetImpl T K update) := by
  obtain ⟨hgateway, asset, hread, rfl⟩ := remoteUpdate_eq_some.mp h
  rw [onAccept, if_pos hgateway, hread]
  rfl

/-- Another chain can send the same update. -/
theorem remoteUpdate_of_source (h : remoteUpdate T post = some update) (hchain : chain.isSubstrate = true) :
    remoteUpdate T { post with source := chain } = some update := by
  obtain ⟨hgateway, hread⟩ := remoteUpdate_eq_some.mp h
  refine remoteUpdate_eq_some.mpr ⟨?_, hread⟩
  simp only [fromGatewayPallet, decide_eq_true_eq] at hgateway ⊢
  exact ⟨hchain, hgateway.2⟩

theorem exists_other_substrate (chain : StateMachine) : ∃ other :
    StateMachine, other.isSubstrate = true ∧ other ≠ chain := by
  by_cases h : chain = .polkadot 0
  · refine ⟨.kusama 0, rfl, ?_⟩
    rw [h]
    exact StateMachine.noConfusion
  · exact ⟨.polkadot 0, rfl, Ne.symm h⟩

/-- In every reachable state: the extrinsic makes updates for root and for the owner only. A message is made whichever
chain sends it; the chain that has registered the asset is its owner, and there is at most one. So all updates that
dispatch a message are authorised exactly if none by message dispatches any. -/
theorem updates_authorised_iff (hT : Apart T K) (hrun : Run T K w₀ log w) :
    (∀ origin update w', (Path.extrinsic origin update).Runs T K w w' →
      Authorised K log w update.assetId (.extrinsic origin update)) ∧
    (∀ post update chain w', remoteUpdate T post = some update → chain.isSubstrate = true →
      ((Path.message post).Runs T K w w' ↔ (Path.message { post with source := chain }).Runs T K w w')) ∧
    (∀ assetId chain, RegisteredBy K log assetId chain →
      (storageOf K w).assetOwners assetId = some (chainAccount T chain) ∧
        ∀ chain', RegisteredBy K log assetId chain' → chain' = chain) ∧
    ((∀ path update w', path.update T = some update → path.Runs T K w w' → Dispatches w w' →
        Authorised K log w update.assetId path) ↔
      ∀ post update w', remoteUpdate T post = some update → (Path.message post).Runs T K w w' → ¬ Dispatches w w') := by
  have hsource (post : PostRequest) (update : ERC6160AssetUpdate) (chain : StateMachine) (w' : World Other)
      (h : remoteUpdate T post = some update) (hchain : chain.isSubstrate = true) :
      (Path.message post).Runs T K w w' ↔ (Path.message { post with source := chain }).Runs T K w w' := by
    simp only [Path.Runs]
    rw [onAccept_update h, onAccept_update (remoteUpdate_of_source h hchain)]
  refine ⟨fun origin update w' h => extrinsic_authorised h, hsource, fun assetId chain hreg => ⟨?_, ?_⟩, ?_, ?_⟩
  · exact (hrun.kept hT assetId).owner_of_registeredBy hreg
  · exact fun chain' hreg' => (hrun.kept hT assetId).registeredBy_unique hreg' hreg
  · intro hall post update w' hupdate hruns hdispatch
    obtain ⟨other, hsubstrate, hne⟩ := exists_other_substrate post.source
    have hfirst : RegisteredBy K log update.assetId post.source :=
      hall (.message post) update w' hupdate hruns hdispatch
    have hsecond : RegisteredBy K log update.assetId other :=
      hall (.message { post with source := other }) update w' (remoteUpdate_of_source hupdate hsubstrate)
        ((hsource post update other w' hupdate hsubstrate).mp hruns) hdispatch
    exact hne ((hrun.kept hT update.assetId).registeredBy_unique hsecond hfirst)
  · intro hnone path update w' hupdate hruns hdispatch
    cases path with
    | extrinsic origin update' =>
      obtain rfl : update' = update := Option.some.inj hupdate
      exact extrinsic_authorised hruns
    | message post => exact absurd hdispatch (hnone post update w' hupdate hruns)

def sampleRuntime : Runtime Storage where
  storage :=
    { get := id
      set := fun s _ => s
      get_set := fun _ _ => rfl
      set_get := fun _ => rfl
      set_set := fun _ _ _ => rfl }
  treasuryAccount := BytesN.zero 32
  secp256k1EcdsaRecover signature _ := some signature
  decodeErrorText _ := "type check failed"

def sampleGovernor : Config Storage :=
  runtimeConfig (.polkadot 3367) (.polkadot 2000) silentClient fun _ _ _ other => .ok other

theorem sample_apart : Apart sampleGovernor sampleRuntime where
  transfer _ _ _ _ _ h := by rw [← Except.ok.inj h]
  mmrPush _ _ := rfl

def emptyStorage : Storage where
  pendingAsset _ := none
  supportedChains _ _ := false
  assetMetadatas _ := none
  assetOwners _ := none
  registrationFee := none
  tokenRegistrarParams _ := none
  tokenGatewayParams _ := none
  standaloneChainAssets _ _ := false

def emptyWorld : World Storage := ⟨{ sampleHost with other := emptyStorage }, []⟩

def sampleAssetId : H256 := sampleDigest (asBytes "UNIT")

theorem length_sampleName : (asBytes "Unit").length ≤ 20 := by decide

theorem length_sampleSymbol : (asBytes "UNIT").length ≤ 20 := by decide

theorem length_sampleChains : ([] : List StateMachine).length ≤ 2 ^ 32 - 1 := Nat.zero_le _

def remoteMessage (para : UInt32) (message : RemoteERC6160AssetRegistration) : PostRequest where
  source := .polkadot para
  dest := .polkadot 3367
  nonce := 0
  fromModule := (tokenGatewayId sampleDigest).bytes
  toModule := tokenGovernorId
  timeoutTimestamp := 0
  body := Codecs.remoteRegistration.encode message

/-- Chain 2000 registers the asset. -/
def sampleCreation : PostRequest :=
  remoteMessage 2000 (.createAsset
    ⟨⟨asBytes "Unit", length_sampleName⟩, ⟨asBytes "UNIT", length_sampleSymbol⟩, ⟨[], length_sampleChains⟩, none⟩)

/-- Chain 2001 adds chain 2002. -/
def sampleUpdate : PostRequest :=
  remoteMessage 2001 (.updateAsset ⟨sampleAssetId, ⟨[.polkadot 2002], by decide⟩, ⟨[], by decide⟩, ⟨[], by decide⟩⟩)

def createdWorld : World Storage := ((onAccept sampleGovernor sampleRuntime sampleCreation).run emptyWorld).2

def updatedWorld : World Storage := ((onAccept sampleGovernor sampleRuntime sampleUpdate).run createdWorld).2

def sampleDeployment : PostRequest where
  source := .polkadot 3367
  dest := .polkadot 2002
  nonce := 0
  fromModule := tokenGovernorId
  toModule := (tokenGatewayId sampleDigest).bytes
  timeoutTimestamp := 0
  body := Codecs.assetMetadata.encode
    ⟨⟨asBytes "Unit", length_sampleName⟩, ⟨asBytes "UNIT", length_sampleSymbol⟩, 18, none⟩

def sampleLog : List (World Storage × Call × World Storage) := [(emptyWorld, .accept sampleCreation, createdWorld)]

theorem sample_run : Run sampleGovernor sampleRuntime emptyWorld sampleLog createdWorld :=
  .call .start ⟨by decide +kernel, rfl⟩

theorem sample_registeredBy : RegisteredBy sampleRuntime sampleLog sampleAssetId (.polkadot 2000) := by
  refine ⟨emptyWorld, sampleCreation, createdWorld, List.mem_singleton_self _, rfl, rfl, ?_⟩
  decide +kernel

theorem updates_authorised_iff_sample :
    Run sampleGovernor sampleRuntime emptyWorld sampleLog createdWorld ∧
      (storageOf sampleRuntime createdWorld).assetOwners sampleAssetId =
        some (chainAccount sampleGovernor (.polkadot 2000)) := by
  obtain ⟨-, -, hregistered, -⟩ := updates_authorised_iff sample_apart sample_run
  exact ⟨sample_run, (hregistered _ _ sample_registeredBy).1⟩

/-- Another chain updates it: its message is accepted and dispatches a request, and the chain has registered nothing. -/
theorem update_by_other_chain :
    Run sampleGovernor sampleRuntime emptyWorld sampleLog createdWorld ∧
      (Path.message sampleUpdate).Runs sampleGovernor sampleRuntime createdWorld updatedWorld ∧
      ((Path.message sampleUpdate).update sampleGovernor).map (·.assetId) = some sampleAssetId ∧
      Dispatches createdWorld updatedWorld ∧
      ¬ Authorised sampleRuntime sampleLog createdWorld sampleAssetId (.message sampleUpdate) := by
  have hupdate : ((onAccept sampleGovernor sampleRuntime sampleUpdate).run createdWorld).1 = .ok () := by decide +kernel
  have hbefore : createdWorld.host.requestCommitments (sampleCommitmentOf sampleDeployment) = none := by decide +kernel
  have hafter : (updatedWorld.host.requestCommitments (sampleCommitmentOf sampleDeployment)).isSome = true := by
    decide +kernel
  refine ⟨sample_run, run_of_fst_ok hupdate, by decide +kernel, fun hsame => ?_, ?_⟩
  · rw [hsame, hbefore] at hafter
    cases hafter
  · rintro ⟨v, post, v', hmem, hsource, -⟩
    obtain ⟨-, rfl, -⟩ : v = emptyWorld ∧ post = sampleCreation ∧ v' = createdWorld := by simpa [sampleLog] using hmem
    revert hsource
    decide

end Hyperbridge.TokenGovernor

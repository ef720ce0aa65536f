import Hyperbridge.TokenGateway.Gateway

/-!
# The asset maps of the token gateway

`supportedAssets` takes a local id to the asset id under which its teleports travel, `localAssets` an asset id to the
local asset that is paid out for it. Every entry overwrites both maps without a look at them, so they stay inverse
exactly as long as no registration takes a local id or a symbol that is in use with another partner; and any account may
make one.
-/

namespace Hyperbridge.TokenGateway.Gateway

open Lib Exec Ismp

section Partial

variable {α β : Type} {f : α → Option β} {g : β → Option α} {a : α} {b : β}

/-- Each is the inverse of the other. -/
def Inverse (f : α → Option β) (g : β → Option α) : Prop := ∀ a b, f a = some b ↔ g b = some a

/-- Neither has another partner. -/
def Fits (f : α → Option β) (g : β → Option α) (a : α) (b : β) : Prop :=
  (∀ b', f a = some b' → b' = b) ∧ ∀ a', g b = some a' → a' = a

variable [DecidableEq α] [DecidableEq β]

/-- A pair can be entered exactly if it fits. -/
theorem Inverse.insert_iff (h : Inverse f g) :
    Inverse (Function.update f a (some b)) (Function.update g b (some a)) ↔ Fits f g a b := by
  constructor
  · intro hinv
    constructor
    · intro b' hb'
      by_contra hne
      have hback : g b' = some a := (h a b').mp hb'
      have hnew := (hinv a b').mpr (by rw [Function.update_of_ne hne, hback])
      rw [Function.update_self] at hnew
      exact hne (Option.some.inj hnew).symm
    · intro a' ha'
      by_contra hne
      have hback : f a' = some b := (h a' b).mpr ha'
      have hnew := (hinv a' b).mp (by rw [Function.update_of_ne hne, hback])
      rw [Function.update_self] at hnew
      exact hne (Option.some.inj hnew).symm
  · rintro ⟨hf, hg⟩ a' b'
    by_cases ha : a' = a
    · by_cases hb : b' = b
      · subst ha hb
        simp
      · have hother : g b' ≠ some a' := fun hback => hb (hf b' (ha ▸ (h a' b').mpr hback))
        subst ha
        simp [Function.update_of_ne hb, hother, Ne.symm hb]
    · by_cases hb : b' = b
      · have hother : f a' ≠ some b' := fun hfore => ha (hg a' (hb ▸ (h a' b').mp hfore))
        subst hb
        simp [Function.update_of_ne ha, hother, Ne.symm ha]
      · rw [Function.update_of_ne ha, Function.update_of_ne hb]
        exact h a' b'

theorem Inverse.erase (h : Inverse f g) (hb : g b = some a) :
    Inverse (Function.update f a none) (Function.update g b none) := by
  intro a' b'
  by_cases ha : a' = a
  · have hother : b' ≠ b → g b' ≠ some a := fun hne hback => by
      have htwo := (h a b').mpr hback
      rw [(h a b).mpr hb] at htwo
      exact hne (Option.some.inj htwo).symm
    subst ha
    by_cases hb' : b' = b
    · subst hb'
      simp
    · simp [Function.update_of_ne hb', hother hb']
  · by_cases hb' : b' = b
    · subst hb'
      have hother : f a' ≠ some b' := fun hfore => by
        have htwo := (h a' b').mp hfore
        rw [hb] at htwo
        exact ha (Option.some.inj htwo).symm
      simp [Function.update_of_ne ha, hother]
    · rw [Function.update_of_ne ha, Function.update_of_ne hb']
      exact h a' b'

end Partial

variable {Other AssetId : Type} {T : Config Other} {K : Runtime Other AssetId}
  {w w' w₀ v : World Other}

/-- The maps and the decimals are as before. -/
def Same (K : Runtime Other AssetId) (w w' : World Other) : Prop :=
  storageOf K w' = storageOf K w ∧ K.assetsDecimals w'.host.other = K.assetsDecimals w.host.other

instance : IsPreorder (World Other) (Same K) where
  refl _ := ⟨rfl, rfl⟩
  trans _ _ _ h h' := ⟨h'.1.trans h.1, h'.2.trans h.2⟩

/-- The other pallets keep away from the storage. -/
structure Apart (T : Config Other) (K : Runtime Other AssetId) : Prop where
  transfer : ∀ source target amount o o', T.transfer source target amount o = .ok o' →
    K.storage.get o' = K.storage.get o ∧ K.assetsDecimals o' = K.assetsDecimals o
  mmrPush : ∀ leaf o, K.storage.get (T.mmrPush leaf o).2 = K.storage.get o ∧
    K.assetsDecimals (T.mmrPush leaf o).2 = K.assetsDecimals o

theorem storageOf_updateStorage (f : Storage AssetId → Storage AssetId) (w : World Other) :
    storageOf K (updateStorage K f w) = f (storageOf K w) := by
  show K.storage.get (K.storage.set _ _) = _
  rw [Lens.get_set]

theorem dispatchKeeps_same (hT : Apart T K) : DispatchKeeps T (Same K) where
  transfer _ _ _ _ h := hT.transfer _ _ _ _ _ h
  mmrPush w leaf := hT.mmrPush leaf w.host.other
  nonce _ _ := ⟨rfl, rfl⟩
  commit _ _ := ⟨rfl, rfl⟩

theorem same_chargeFee (hT : Apart T K) (who : AccountId) : Keeps (Same K) (chargeFee T K who) := by
  refine (Keeps.gets _).bind fun fee => ?_
  split
  · exact keeps_invoke fun w other h => hT.transfer _ _ _ _ _ h
  · exact Keeps.pure _

theorem same_tellGovernor (hT : Apart T K) (who : AccountId) (message : RemoteERC6160AssetRegistration) :
    Keeps (Same K) (tellGovernor T who message) :=
  (Keeps.ofExcept _).bind fun _ => (keeps_dispatchRequest (dispatchKeeps_same hT) _ _).mapErr

theorem same_decodeBody (info : Meta) (b : Bytes) : Keeps (Same K) (decodeBody info b : Pallet Other Body) := by
  cases b with
  | nil => exact Keeps.panicWith _
  | cons tag data => exact Keeps.ofExcept _

variable {metadata : AssetMetadata} {asset : AssetId}

theorem createAsset_ok (h : (createAsset K metadata).run w = (.ok asset, w')) :
    ∃ other, K.createAssetId metadata.symbol.1 w.host.other = .ok (asset, other) := by
  obtain ⟨⟨id, other⟩, hid, h⟩ := query_bind_ok.mp h
  rw [modify_bind_run] at h
  obtain ⟨_, w₁, -, h⟩ := bind_ok.mp h
  obtain ⟨_, w₂, -, h⟩ := bind_ok.mp h
  obtain rfl : id = asset := Outcome.ok.inj (Prod.mk.inj h).1
  exact ⟨other, except_mapError_ok.mp hid⟩

theorem createAsset_keeps {R : World Other → World Other → Prop} [IsPreorder (World Other) R]
    (hparts : ∀ asset other, K.createAssetId metadata.symbol.1 w.host.other = .ok (asset, other) →
      R w (others.set other w) ∧
      (∀ v other', K.assetsCreate asset K.assetAdmin
        (metadata.minimumBalance.getD minBalance) v.host.other = .ok other' → R v (others.set other' v)) ∧
      ∀ v other', K.assetsSetMetadata asset K.assetAdmin metadata.name.1 metadata.symbol.1 18
        v.host.other = .ok other' → R v (others.set other' v))
    (hret : ((createAsset K metadata).run w).1.returns = true) : R w ((createAsset K metadata).run w).2 := by
  rw [createAsset, bind_run, query_run] at hret ⊢
  cases hid : K.createAssetId metadata.symbol.1 w.host.other with
  | error e => exact refl_of R w
  | ok created =>
    obtain ⟨hfirst, hcreate, hset⟩ := hparts created.1 created.2 hid
    have hrest : Keeps R (
        invoke (K.assetsCreate created.1 K.assetAdmin (metadata.minimumBalance.getD minBalance))
          Ismp.Error.module >>= fun _ =>
        invoke (K.assetsSetMetadata created.1 K.assetAdmin metadata.name.1 metadata.symbol.1 18)
          Ismp.Error.module >>= fun _ =>
        (pure created.1 : Pallet Other AssetId)) :=
      Keeps.bind (keeps_invoke hcreate) fun _ => Keeps.bind (keeps_invoke hset) fun _ => Keeps.pure _
    rw [hid] at hret
    exact trans_of R hfirst (hrest (others.set created.2 w) hret)

theorem createAsset_storage (hret : ((createAsset K metadata).run w).1.returns = true) :
    storageOf K ((createAsset K metadata).run w).2 = storageOf K w :=
  createAsset_keeps (R := fun v v' => storageOf K v' = storageOf K v)
    (fun _ _ hid => ⟨(K.createAssetId_apart _ _ _ _ hid).1, fun _ _ h => (K.assetsCreate_apart _ _ _ _ _ h).1,
      fun _ _ h => (K.assetsSetMetadata_apart _ _ _ _ _ _ _ h).1⟩) hret

theorem same_updateErc6160Asset (hT : Apart T K) (who : AccountId) (asset : GatewayAssetUpdate) :
    Keeps (Same K) (updateErc6160Asset T K who asset) :=
  (Keeps.query _).bind fun _ => Keeps.bind ((Keeps.query _).bind fun _ => Keeps.throwIf _ _) fun _ =>
    (same_chargeFee hT who).bind fun _ => same_tellGovernor hT who _

def Storage.Inverse (s : Storage AssetId) : Prop := Gateway.Inverse s.supportedAssets s.localAssets

/-- Inverse maps stay inverse. -/
def StaysInverse (K : Runtime Other AssetId) (w w' : World Other) : Prop :=
  (storageOf K w).Inverse → (storageOf K w').Inverse

instance : IsPreorder (World Other) (StaysInverse K) where
  refl _ h := h
  trans _ _ _ h h' hinv := h' (h hinv)

theorem Same.staysInverse (w w' : World Other) (h : Same K w w') : StaysInverse K w w' := by
  intro hinv
  rw [h.1]
  exact hinv

variable [DecidableEq AssetId]

theorem same_transferAsset {ε : Type} (asset : AssetId) (source target : AccountId) (amount : BitVec 128)
    (native others : Remainder) (err : String → ε) :
    Keeps (Same K) (transferAsset K asset source target amount native others err) := by
  unfold transferAsset
  split
  · exact keeps_invoke fun w other h => K.nativeTransfer_apart _ _ _ _ _ _ h
  · exact keeps_invoke fun w other h => K.assetsTransfer_apart _ _ _ _ _ _ _ h

theorem same_teleport (hT : Apart T K) (who : AccountId) (params : TeleportParams AssetId) :
    Keeps (Same K) (teleport T K who params) :=
  (Keeps.query _).bind fun _ => (same_transferAsset _ _ _ _ _ _ _).bind fun _ => (Keeps.gets _).bind fun _ =>
    (Keeps.query _).bind fun _ => (keeps_dispatchRequest (dispatchKeeps_same hT) _ _).mapErr

theorem same_payOut (info : Meta) (body : Body) (beneficiary : AccountId) :
    Keeps (Same K) (payOut T K info body beneficiary) := by
  refine (Keeps.query _).bind fun _ => (Keeps.gets _).bind fun _ => (Keeps.query _).bind fun _ => ?_
  refine Keeps.bind ?_ fun _ => same_transferAsset _ _ _ _ _ _ _
  unfold convertToBalance
  split
  · exact Keeps.panicWith _
  · exact Keeps.ofExcept _

theorem same_receive (post : PostRequest) : Keeps (Same K) (receive T K post) :=
  (Keeps.gets _).bind fun _ => (Keeps.throwIf _ _).bind fun _ => (same_decodeBody _ _).bind fun _ => same_payOut _ _ _

theorem same_onTimeout (timeout : Timeout) : Keeps (Same K) (onTimeout T K timeout) := by
  rcases timeout with (post | get) | response
  · exact (same_decodeBody _ _).bind fun _ => same_payOut _ _ _
  · exact Keeps.throw _
  · exact Keeps.throw _

inductive Call (AssetId : Type) where
  | teleport (who : AccountId) (params : TeleportParams AssetId)
  | createErc6160Asset (who : AccountId) (asset : AssetRegistration AssetId)
  | updateErc6160Asset (who : AccountId) (asset : GatewayAssetUpdate)
  | setTokenGatewayAddresses (addresses : List (StateMachine × Bytes))
  | accept (post : PostRequest)
  | timeout (timeout : Timeout)

def Call.Runs (T : Config Other) (K : Runtime Other AssetId) (w w' : World Other) : Call AssetId → Prop
  | teleport who params => ∃ c, (Gateway.teleport T K who params).run w = (.ok c, w')
  | createErc6160Asset who asset => ∃ c, (Gateway.createErc6160Asset T K who asset).run w = (.ok c, w')
  | updateErc6160Asset who asset => ∃ c, (Gateway.updateErc6160Asset T K who asset).run w = (.ok c, w')
  | setTokenGatewayAddresses addresses => (Gateway.setTokenGatewayAddresses K addresses).run w = (.ok (), w')
  | accept post => ((onAccept T K post).run w).1.returns = true ∧ ((onAccept T K post).run w).2 = w'
  | timeout t => ((onTimeout T K t).run w).1.returns = true ∧ ((onTimeout T K t).run w).2 = w'

def Call.Registers (T : Config Other) (K : Runtime Other AssetId) (w : World Other) (asset : AssetId) (assetId : H256) :
    Call AssetId → Prop
  | createErc6160Asset _ registration => registration.localId = asset ∧ T.keccak256 registration.reg.symbol.1 = assetId
  | accept post =>
      fromGovernor T post = true ∧ ∃ metadata, Codecs.assetMetadata.read post.body = some metadata ∧
        T.keccak256 metadata.symbol.1 = assetId ∧ (storageOf K w).localAssets assetId = none ∧
          ∃ w', (createAsset K metadata).run w = (.ok asset, w')
  | _ => False

/-- It registers a pair that does not fit. -/
def Call.Clashes (T : Config Other) (K : Runtime Other AssetId) (w : World Other) (call : Call AssetId) : Prop :=
  ∃ asset assetId, call.Registers T K w asset assetId ∧
    ¬ Fits (storageOf K w).supportedAssets (storageOf K w).localAssets asset assetId

theorem localAssets_insertAsset (asset : AssetId) (assetId : H256) (ercDecimals : UInt8)
    (s : Storage AssetId) : (insertAsset asset assetId ercDecimals s).localAssets assetId = some asset :=
  Function.update_self ..

/-- The pair is entered, whatever was there. -/
theorem createErc6160Asset_ok (hT : Apart T K) {who : AccountId} {asset : AssetRegistration AssetId} {c : H256}
    (h : (createErc6160Asset T K who asset).run w = (.ok c, w')) :
    storageOf K w' = insertAsset asset.localId (T.keccak256 asset.reg.symbol.1) 18 (storageOf K w) := by
  obtain ⟨_, w₁, hfee, h⟩ := bind_ok.mp h
  rw [modify_bind_run] at h
  rw [((same_tellGovernor hT who _).of_ok h).1, storageOf_updateStorage, ((same_chargeFee hT who).of_ok hfee).1]

theorem removeAsset_inverse {s : Storage AssetId} (h : s.Inverse) (assetId : H256) :
    (removeAsset s assetId).Inverse := by
  unfold removeAsset
  cases hasset : s.localAssets assetId with
  | none => exact h
  | some asset => exact Inverse.erase h hasset

theorem removeAssets_inverse {s : Storage AssetId} (h : s.Inverse) (assetIds : List H256) :
    (assetIds.foldl removeAsset s).Inverse := by
  induction assetIds generalizing s with
  | nil => exact h
  | cons assetId assetIds ih => exact ih (removeAsset_inverse h assetId)

theorem staysInverse_onDeregister (post : PostRequest) : Keeps (StaysInverse K) (onDeregister K post) := by
  unfold onDeregister
  split
  · refine Keeps.modify fun w hinv => ?_
    rw [storageOf_updateStorage]
    exact removeAssets_inverse hinv _
  · exact Keeps.pure _

theorem staysInverse_receive (post : PostRequest) : Keeps (StaysInverse K) (receive T K post) :=
  (same_receive post).mono Same.staysInverse

/-- Known assets are renamed. -/
theorem onMetadata_run_of_known (hknown : (storageOf K w).localAssets (T.keccak256 metadata.symbol.1) = some asset) :
    (onMetadata T K metadata).run w = (renameAsset K asset metadata >>= fun _ =>
      modify (updateStorage K (setDecimals asset metadata.decimals))).run w := by
  rw [onMetadata, gets_bind_run]
  simp only [hknown]

theorem onMetadata_run_of_unknown (hunknown : (storageOf K w).localAssets (T.keccak256 metadata.symbol.1) = none) :
    (onMetadata T K metadata).run w = (createAsset K metadata >>= fun asset =>
      modify (updateStorage K (insertAsset asset (T.keccak256 metadata.symbol.1) metadata.decimals))).run w := by
  rw [onMetadata, gets_bind_run]
  simp only [hunknown]

theorem onMetadata_inverse_of_known (hknown : (storageOf K w).localAssets (T.keccak256 metadata.symbol.1) = some asset)
    (hret : ((onMetadata T K metadata).run w).1.returns = true) :
    StaysInverse K w ((onMetadata T K metadata).run w).2 := by
  have hkeeps : Keeps (StaysInverse K) (renameAsset K asset metadata >>= fun _ =>
      modify (updateStorage K (setDecimals asset metadata.decimals))) := by
    refine Keeps.bind (keeps_invoke fun v other h hinv => ?_) fun _ => Keeps.modify fun v hinv => ?_
    · have hstore : storageOf K (others.set other v) = storageOf K v := (K.assetsSetMetadata_apart _ _ _ _ _ _ _ h).1
      rw [hstore]
      exact hinv
    · rw [storageOf_updateStorage]
      exact hinv
  rw [onMetadata_run_of_known hknown] at hret ⊢
  exact hkeeps w hret

theorem onMetadata_of_unknown (hunknown : (storageOf K w).localAssets (T.keccak256 metadata.symbol.1) = none)
    (hret : ((onMetadata T K metadata).run w).1.returns = true) :
    (∃ asset w₁, (createAsset K metadata).run w = (.ok asset, w₁) ∧
        storageOf K ((onMetadata T K metadata).run w).2 =
          insertAsset asset (T.keccak256 metadata.symbol.1) metadata.decimals (storageOf K w)) ∨
      (∀ asset w₁, (createAsset K metadata).run w ≠ (.ok asset, w₁)) ∧
        storageOf K ((onMetadata T K metadata).run w).2 = storageOf K w := by
  have hstorage : ((createAsset K metadata).run w).1.returns = true →
      storageOf K ((createAsset K metadata).run w).2 = storageOf K w := createAsset_storage
  rw [onMetadata_run_of_unknown hunknown, bind_run] at hret ⊢
  rcases hcreate : (createAsset K metadata).run w with ⟨asset | e | m, w₁⟩ <;> rw [hcreate] at hstorage
  · refine .inl ⟨asset, w₁, rfl, ?_⟩
    show storageOf K (updateStorage K _ w₁) = _
    rw [storageOf_updateStorage, hstorage rfl]
  · refine .inr ⟨fun asset v h => ?_, hstorage rfl⟩
    cases h
  · rw [hcreate] at hret
    cases hret

variable {call : Call AssetId}

omit [DecidableEq AssetId] in
theorem Call.not_clashes (h : ∀ asset assetId, ¬ call.Registers T K w asset assetId) : ¬ call.Clashes T K w := by
  rintro ⟨asset, assetId, hreg, -⟩
  exact h asset assetId hreg

variable {assetId : H256}

omit [DecidableEq AssetId] in
theorem Call.clashes_iff
    (h : ∀ asset' assetId', call.Registers T K w asset' assetId' ↔ asset = asset' ∧ assetId = assetId') :
    call.Clashes T K w ↔ ¬ Fits (storageOf K w).supportedAssets (storageOf K w).localAssets asset assetId := by
  simp only [Call.Clashes, h]
  constructor
  · rintro ⟨_, _, ⟨rfl, rfl⟩, hclash⟩
    exact hclash
  · intro hclash
    exact ⟨asset, assetId, ⟨rfl, rfl⟩, hclash⟩

theorem Call.insert_inverse_iff {ercDecimals : UInt8}
    (h : ∀ asset' assetId', call.Registers T K w asset' assetId' ↔ asset = asset' ∧ assetId = assetId')
    (hinv : (storageOf K w).Inverse) :
    (insertAsset asset assetId ercDecimals (storageOf K w)).Inverse ↔ ¬ call.Clashes T K w := by
  rw [Call.clashes_iff h, not_not]
  exact Inverse.insert_iff hinv

variable {post : PostRequest}

omit [DecidableEq AssetId] in
theorem accept_registers_iff (hgov : fromGovernor T post = true)
    (hread : Codecs.assetMetadata.read post.body = some metadata) :
    (Call.accept post : Call AssetId).Registers T K w asset assetId ↔
      T.keccak256 metadata.symbol.1 = assetId ∧ (storageOf K w).localAssets assetId = none ∧
        ∃ w₁, (createAsset K metadata).run w = (.ok asset, w₁) := by
  constructor
  · rintro ⟨-, metadata', hmetadata, h⟩
    obtain rfl : metadata = metadata' := Option.some.inj (hread.symm.trans hmetadata)
    exact h
  · intro h
    exact ⟨hgov, metadata, hread, h⟩

theorem onMetadata_inverse_iff (hgov : fromGovernor T post = true)
    (hread : Codecs.assetMetadata.read post.body = some metadata)
    (hret : ((onMetadata T K metadata).run w).1.returns = true) (hinv : (storageOf K w).Inverse) :
    (storageOf K ((onMetadata T K metadata).run w).2).Inverse ↔ ¬ (Call.accept post : Call AssetId).Clashes T K w := by
  cases hlocal : (storageOf K w).localAssets (T.keccak256 metadata.symbol.1) with
  | some asset =>
    refine iff_of_true (onMetadata_inverse_of_known hlocal hret hinv) (Call.not_clashes fun asset' assetId hreg => ?_)
    obtain ⟨rfl, hnone, -⟩ := (accept_registers_iff hgov hread).mp hreg
    rw [hlocal] at hnone
    cases hnone
  | none =>
    rcases onMetadata_of_unknown hlocal hret with ⟨asset, w₁, hcreate, hend⟩ | ⟨hfail, hend⟩
    · rw [hend]
      refine Call.insert_inverse_iff (fun asset' assetId => ?_) hinv
      rw [accept_registers_iff hgov hread, hcreate]
      constructor
      · rintro ⟨rfl, -, v, hv⟩
        exact ⟨Outcome.ok.inj (Prod.mk.inj hv).1, rfl⟩
      · rintro ⟨rfl, rfl⟩
        exact ⟨rfl, hlocal, w₁, rfl⟩
    · rw [hend]
      refine iff_of_true hinv (Call.not_clashes fun asset assetId hreg => ?_)
      obtain ⟨-, -, w₁, hcreate⟩ := (accept_registers_iff hgov hread).mp hreg
      exact hfail asset w₁ hcreate

/-- A message, for inverse maps. -/
theorem accept_inverse_iff (hret : ((onAccept T K post).run w).1.returns = true) (hinv : (storageOf K w).Inverse) :
    (storageOf K ((onAccept T K post).run w).2).Inverse ↔ ¬ (Call.accept post : Call AssetId).Clashes T K w := by
  by_cases hgov : fromGovernor T post = true
  · cases hread : Codecs.assetMetadata.read post.body with
    | none =>
      have hkeeps : Keeps (StaysInverse K) (onAccept T K post) := by
        rw [onAccept, if_pos hgov, hread]
        exact (staysInverse_onDeregister post).bind fun _ => staysInverse_receive post
      refine iff_of_true (hkeeps w hret hinv) (Call.not_clashes fun asset assetId hreg => ?_)
      obtain ⟨-, metadata, hmetadata, -⟩ := hreg
      rw [hread] at hmetadata
      cases hmetadata
    | some metadata =>
      have hrun : onAccept T K post = onMetadata T K metadata := by rw [onAccept, if_pos hgov, hread]
      rw [hrun] at hret ⊢
      exact onMetadata_inverse_iff hgov hread hret hinv
  · have hrun : onAccept T K post = receive T K post := by rw [onAccept, if_neg hgov]
    rw [hrun] at hret ⊢
    exact iff_of_true (staysInverse_receive post w hret hinv) (Call.not_clashes fun asset assetId hreg => hgov hreg.1)

theorem Call.inverse_iff (hT : Apart T K) (h : call.Runs T K w w') (hinv : (storageOf K w).Inverse) :
    (storageOf K w').Inverse ↔ ¬ call.Clashes T K w := by
  cases call with
  | teleport who params =>
    obtain ⟨c, h⟩ := h
    exact iff_of_true (((same_teleport hT who params).of_ok h).staysInverse _ _ hinv) (Call.not_clashes fun _ _ h => h)
  | createErc6160Asset who asset =>
    obtain ⟨c, h⟩ := h
    rw [createErc6160Asset_ok hT h]
    exact Call.insert_inverse_iff (fun _ _ => Iff.rfl) hinv
  | updateErc6160Asset who asset =>
    obtain ⟨c, h⟩ := h
    exact iff_of_true (((same_updateErc6160Asset hT who asset).of_ok h).staysInverse _ _ hinv)
      (Call.not_clashes fun _ _ h => h)
  | setTokenGatewayAddresses addresses =>
    obtain ⟨-, rfl⟩ := Prod.mk.inj h
    rw [storageOf_updateStorage]
    exact iff_of_true hinv (Call.not_clashes fun _ _ h => h)
  | accept post =>
    obtain ⟨hret, rfl⟩ := h
    exact accept_inverse_iff hret hinv
  | timeout t =>
    obtain ⟨hret, rfl⟩ := h
    exact iff_of_true ((same_onTimeout t w hret).staysInverse _ _ hinv) (Call.not_clashes fun _ _ h => h)

inductive Run (T : Config Other) (K : Runtime Other AssetId) (w₀ : World Other) :
    List (World Other × Call AssetId) → World Other → Prop
  | start : Run T K w₀ [] w₀
  | call {log : List (World Other × Call AssetId)} {w w' : World Other} {call : Call AssetId} (run : Run T K w₀ log w)
      (hcall : call.Runs T K w w') : Run T K w₀ (log ++ [(w, call)]) w'
  | elsewhere {log : List (World Other × Call AssetId)} {w w' : World Other} (run : Run T K w₀ log w)
      (hsame : Same K w w') : Run T K w₀ log w'

theorem Run.inverse_iff (hT : Apart T K) {log : List (World Other × Call AssetId)} (hrun : Run T K w₀ log w)
    (hstart : (storageOf K w₀).Inverse) :
    ((∀ p ∈ log, (storageOf K p.1).Inverse) ∧ (storageOf K w).Inverse) ↔ ∀ p ∈ log, ¬ p.2.Clashes T K p.1 := by
  induction hrun with
  | start => simp [hstart]
  | @call log w w' call run hcall ih =>
    simp only [List.forall_mem_append, List.forall_mem_singleton]
    rw [← ih]
    constructor
    · rintro ⟨⟨hlog, hw⟩, hw'⟩
      exact ⟨⟨hlog, hw⟩, (Call.inverse_iff hT hcall hw).mp hw'⟩
    · rintro ⟨⟨hlog, hw⟩, hclash⟩
      exact ⟨⟨hlog, hw⟩, (Call.inverse_iff hT hcall hw).mpr hclash⟩
  | elsewhere run hsame ih => rw [← ih, hsame.1]

/-- The request of a teleport. -/
def teleported (T : Config Other) (who : AccountId) (params : TeleportParams AssetId) (assetId : H256)
    (ercDecimals decimals : UInt8) (w : World Other) : PostRequest where
  source := T.hostStateMachine
  dest := params.destination
  nonce := w.host.nonce
  fromModule := (tokenGatewayId T.keccak256).bytes
  toModule := params.tokenGateway
  timeoutTimestamp := if params.timeout = 0 then 0 else saturatingAdd (asSecs w.host.now) params.timeout
  body := 0 :: (teleportBody who params assetId ercDecimals decimals).abiEncode

theorem transferAsset_ok {ε : Type} {source target : AccountId} {amount : BitVec 128}
    {native others : Remainder} {err : String → ε}
    (h : (transferAsset K asset source target amount native others err).run w = (.ok (), w')) :
    ∃ other, w' = Ismp.others.set other w ∧ K.transferred other = K.transferred w.host.other ++
      [⟨asset, source, target, amount⟩] := by
  unfold transferAsset at h
  split at h
  · rename_i hnative
    obtain ⟨other, hother, rfl⟩ := invoke_ok.mp h
    refine ⟨other, rfl, ?_⟩
    rw [K.transferred_nativeTransfer _ _ _ _ _ _ hother, hnative]
  · obtain ⟨other, hother, rfl⟩ := invoke_ok.mp h
    exact ⟨other, rfl, K.transferred_assetsTransfer _ _ _ _ _ _ _ hother⟩

theorem teleport_ok {who : AccountId} {params : TeleportParams AssetId} {c : H256}
    (h : (teleport T K who params).run w = (.ok c, w')) :
    ∃ assetId ercDecimals, (storageOf K w).supportedAssets params.assetId = some assetId ∧
      (storageOf K w).decimals params.assetId = some ercDecimals ∧
      hashRequest T.keccak256 (.post (teleported T who params assetId ercDecimals
        (localDecimals K params.assetId w.host.other) w)) = some c ∧
      (w'.host.requestCommitments c).isSome := by
  obtain ⟨assetId, hid, h⟩ := query_bind_ok.mp h
  obtain ⟨_, w₁, htransfer, h⟩ := bind_ok.mp h
  have hsame := (same_transferAsset (K := K) _ _ _ _ _ _ _).of_ok htransfer
  obtain ⟨other, rfl, -⟩ := transferAsset_ok htransfer
  rw [gets_bind_run] at h
  obtain ⟨ercDecimals, herc, h⟩ := query_bind_ok.mp h
  rw [okOr_eq_ok, hsame.1] at herc
  have hdecimals : localDecimals K params.assetId other = localDecimals K params.assetId w.host.other := by
    have hassets : K.assetsDecimals other = K.assetsDecimals w.host.other := hsame.2
    rw [localDecimals, localDecimals, hassets]
  obtain ⟨other', -, hhash, -, rfl⟩ := dispatchRequest_ok (mapErr_ok.mp h)
  have hrequest : stamped T (others.set other w) (.post
      { dest := params.destination, fromModule := (tokenGatewayId T.keccak256).bytes, toModule := params.tokenGateway
        timeout := params.timeout
        body := 0 :: (teleportBody who params assetId ercDecimals (localDecimals K params.assetId other)).abiEncode }) =
      .post (teleported T who params assetId ercDecimals (localDecimals K params.assetId w.host.other) w) := by
    rw [hdecimals]
    rfl
  refine ⟨assetId, ercDecimals, okOr_eq_ok.mp hid, herc, ?_, ?_⟩
  · rw [← hrequest]
    exact hhash
  · show (Function.update w.host.requestCommitments c _ c).isSome
    rw [Function.update_self]
    rfl

/-- From empty maps, the maps are inverse to each other in every state of a run exactly if no call registers a local id
or a symbol that is in use with another partner. Then what a teleport locks is what is paid out for the asset id it
sends. -/
theorem asset_maps_inverse_iff (hT : Apart T K) (hsupported : ∀ asset, (storageOf K w₀).supportedAssets asset = none)
    (hlocal : ∀ assetId, (storageOf K w₀).localAssets assetId = none) {log : List (World Other × Call AssetId)}
    (hrun : Run T K w₀ log w) :
    (((∀ p ∈ log, (storageOf K p.1).Inverse) ∧ (storageOf K w).Inverse) ↔ ∀ p ∈ log, ¬ p.2.Clashes T K p.1) ∧
    ((∀ p ∈ log, ¬ p.2.Clashes T K p.1) → ∀ who params c w', (teleport T K who params).run w = (.ok c, w') →
      ∃ assetId ercDecimals, (storageOf K w).localAssets assetId = some params.assetId ∧
        hashRequest T.keccak256 (.post (teleported T who params assetId ercDecimals
          (localDecimals K params.assetId w.host.other) w)) = some c) := by
  have hstart : (storageOf K w₀).Inverse := by
    intro asset assetId
    rw [hsupported, hlocal]
    simp
  refine ⟨hrun.inverse_iff hT hstart, fun hclash who params c w' h => ?_⟩
  obtain ⟨assetId, ercDecimals, hid, -, hhash, -⟩ := teleport_ok h
  exact ⟨assetId, ercDecimals, (((hrun.inverse_iff hT hstart).mpr hclash).2 _ _).mp hid, hhash⟩

structure SampleOther where
  gateway : Storage Nat
  decimals : Nat → UInt8
  transferred : List (Transfer Nat)

def sampleRuntime : Runtime SampleOther Nat where
  storage :=
    { get := SampleOther.gateway
      set := fun gateway o => { o with gateway := gateway }
      get_set := fun _ _ => rfl
      set_get := fun _ => rfl
      set_set := fun _ _ _ => rfl }
  nativeAssetId := 0
  decimals := 12
  assetAdmin := BytesN.zero 32
  assetRegistrationFee _ := 0
  nativeTransfer source target amount _ o := .ok { o with
    transferred := o.transferred ++ [⟨0, source, target, amount⟩] }
  assetsTransfer asset source target amount _ o :=
    .ok { o with transferred := o.transferred ++ [⟨asset, source, target, amount⟩] }
  assetsDecimals o := o.decimals
  assetsAdmin _ _ := none
  assetsCreate _ _ _ o := .ok o
  assetsSetMetadata asset _ _ _ decimals o := .ok { o with decimals := Function.update o.decimals asset decimals }
  createAssetId _ _ := .error "Unimplemented"
  transferred := SampleOther.transferred
  transferred_nativeTransfer _ _ _ _ _ _ h := by rw [← Except.ok.inj h]
  transferred_assetsTransfer _ _ _ _ _ _ _ h := by rw [← Except.ok.inj h]
  nativeTransfer_apart _ _ _ _ _ _ h := by
    rw [← Except.ok.inj h]
    exact ⟨rfl, rfl⟩
  assetsTransfer_apart _ _ _ _ _ _ _ h := by
    rw [← Except.ok.inj h]
    exact ⟨rfl, rfl⟩
  assetsCreate_apart _ _ _ _ _ h := by
    rw [← Except.ok.inj h]
    exact ⟨rfl, fun _ _ => rfl⟩
  assetsSetMetadata_apart _ _ _ _ _ _ _ h := by
    rw [← Except.ok.inj h]
    exact ⟨rfl, Function.update_self .., fun _ hne => Function.update_of_ne hne ..⟩
  createAssetId_apart _ _ _ _ h := by cases h
  assetsDecimals_set _ _ := rfl

def sampleGateway : Config SampleOther :=
  { runtimeConfig (.polkadot 2000) (.polkadot 3367) silentClient (fun _ _ _ other => .ok other) with
    coprocessor := some (.polkadot 3367) }

theorem sample_apart : Apart sampleGateway sampleRuntime where
  transfer _ _ _ _ _ h := by
    rw [← Except.ok.inj h]
    exact ⟨rfl, rfl⟩
  mmrPush _ _ := ⟨rfl, rfl⟩

def emptyWorld : World SampleOther :=
  ⟨{ sampleHost with other := ⟨⟨fun _ => none, fun _ => none, fun _ => none, fun _ => none⟩, fun _ => 10, []⟩ }, []⟩

def sampleAccount : AccountId := BytesN.ofNat 32 0xa11ce

/-- The symbol is always "UNIT". -/
def sampleRegistration (localId : Nat) : AssetRegistration Nat :=
  ⟨localId, ⟨⟨asBytes "Unit", by decide⟩, ⟨asBytes "UNIT", by decide⟩, ⟨[], Nat.zero_le _⟩, none⟩⟩

def sampleAssetId : H256 := sampleDigest (asBytes "UNIT")

def sampleCall (localId : Nat) : Call Nat := .createErc6160Asset sampleAccount (sampleRegistration localId)

def registered (localId : Nat) (w : World SampleOther) : World SampleOther :=
  ((createErc6160Asset sampleGateway sampleRuntime sampleAccount (sampleRegistration localId)).run w).2

theorem sample_registers {localId : Nat} {w : World SampleOther}
    (h : ((createErc6160Asset sampleGateway sampleRuntime sampleAccount (sampleRegistration localId)).run
      w).1.isOk = true) :
    (sampleCall localId).Runs sampleGateway sampleRuntime w (registered localId w) ∧
      storageOf sampleRuntime (registered localId w) =
        insertAsset localId sampleAssetId 18 (storageOf sampleRuntime w) := by
  obtain ⟨c, hrun⟩ := exists_run_ok h
  exact ⟨⟨c, hrun⟩, createErc6160Asset_ok sample_apart hrun⟩

theorem sample_first : (sampleCall 1).Runs sampleGateway sampleRuntime emptyWorld (registered 1 emptyWorld) ∧
    storageOf sampleRuntime (registered 1 emptyWorld) =
      insertAsset 1 sampleAssetId 18 (storageOf sampleRuntime emptyWorld) :=
  sample_registers (by decide +kernel)

theorem sample_second :
    (sampleCall 2).Runs sampleGateway sampleRuntime (registered 1 emptyWorld) (registered 2 (registered 1 emptyWorld)) ∧
    storageOf sampleRuntime (registered 2 (registered 1 emptyWorld)) =
      insertAsset 2 sampleAssetId 18 (storageOf sampleRuntime (registered 1 emptyWorld)) :=
  sample_registers (by decide +kernel)

theorem asset_maps_inverse_iff_sample :
    Run sampleGateway sampleRuntime emptyWorld [(emptyWorld, sampleCall 1)] (registered 1 emptyWorld) ∧
      (storageOf sampleRuntime (registered 1 emptyWorld)).Inverse := by
  have hrun : Run sampleGateway sampleRuntime emptyWorld [(emptyWorld, sampleCall 1)] (registered 1 emptyWorld) :=
    .call .start sample_first.1
  obtain ⟨hiff, -⟩ := asset_maps_inverse_iff sample_apart (fun _ => rfl) (fun _ => rfl) hrun
  refine ⟨hrun, (hiff.mpr ?_).2⟩
  simp only [List.forall_mem_singleton]
  rintro ⟨asset, assetId, -, hclash⟩
  refine hclash ⟨fun _ h => ?_, fun _ h => ?_⟩
  · cases h
  · cases h

/-- After the second, the symbol leads to the second asset, and the first still travels under it. -/
theorem asset_maps_not_inverse :
    Run sampleGateway sampleRuntime emptyWorld
        [(emptyWorld, sampleCall 1), (registered 1 emptyWorld, sampleCall 2)] (registered 2 (registered 1 emptyWorld)) ∧
      (storageOf sampleRuntime (registered 2 (registered 1 emptyWorld))).supportedAssets 1 = some sampleAssetId ∧
      (storageOf sampleRuntime (registered 2 (registered 1 emptyWorld))).localAssets sampleAssetId = some 2 := by
  refine ⟨.call (.call .start sample_first.1) sample_second.1, ?_, ?_⟩
  · rw [sample_second.2, sample_first.2]
    rfl
  · rw [sample_second.2, localAssets_insertAsset]

end Hyperbridge.TokenGateway.Gateway

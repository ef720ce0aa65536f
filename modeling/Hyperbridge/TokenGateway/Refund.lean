import Hyperbridge.TokenGateway.Registry

/-!
# Teleports that time out

What was locked for a teleport that times out goes back to the account that sent it. The request has the asset's id and
the amount in the decimals of its ERC20 counterpart. Which local asset that is, and how much of it, the callback works
out from the maps and the metadata of then. The refund is exact if they still say the same; else it is of another amount
or asset, or fails.
-/

namespace Hyperbridge.TokenGateway.Gateway

open Lib Exec Ismp

variable {Other AssetId : Type} [DecidableEq AssetId] {T : Config Other} {K : Runtime Other AssetId}
  {w w' w₀ w₁ : World Other} {who : AccountId} {params : TeleportParams AssetId} {asset : AssetId} {assetId c : H256}

theorem scale_lt (ercDecimals decimals : UInt8) : scale ercDecimals decimals < 2 ^ 128 := Nat.mod_lt _ (by decide)

theorem toNat_convertToErc20 (value : BitVec 128) (ercDecimals decimals : UInt8) :
    (convertToErc20 value ercDecimals decimals).toNat = value.toNat * scale ercDecimals decimals := by
  have hvalue := value.isLt
  have hscale := scale_lt ercDecimals decimals
  have hlt : value.toNat * scale ercDecimals decimals < 2 ^ 128 * 2 ^ 128 := Nat.mul_lt_mul'' hvalue hscale
  rw [convertToErc20, BitVec.toNat_ofNat, Nat.mod_eq_of_lt (by omega)]

variable {amount : BitVec 128}

theorem readBalance_eq_some {value : U256} {divisor : Nat} :
    readBalance value divisor = some amount ↔ value.toNat / divisor = amount.toNat := by
  have hamount := amount.isLt
  unfold readBalance
  split
  · rename_i hlt
    rw [Option.some.injEq, ← BitVec.toNat_inj, BitVec.toNat_ofNat, Nat.mod_eq_of_lt hlt]
  · simp only [reduceCtorEq, false_iff]
    omega

/-- The amount comes back under the new decimals. -/
def Restores (amount : BitVec 128) (ercDecimals decimals ercDecimals' decimals' : UInt8) : Prop :=
  scale ercDecimals' decimals' ≠ 0 ∧
    amount.toNat * scale ercDecimals decimals / scale ercDecimals' decimals' = amount.toNat

variable {ercDecimals decimals : UInt8}

theorem restores_self (hscale : scale ercDecimals decimals ≠ 0) (amount : BitVec 128) :
    Restores amount ercDecimals decimals ercDecimals decimals :=
  ⟨hscale, Nat.mul_div_cancel _ (Nat.pos_of_ne_zero hscale)⟩

theorem convertToBalance_ok {info : Meta} {value : U256} :
    (convertToBalance info value ercDecimals decimals).run w = (.ok amount, w') ↔
      scale ercDecimals decimals ≠ 0 ∧ value.toNat / scale ercDecimals decimals = amount.toNat ∧ w = w' := by
  unfold convertToBalance
  split
  · simp [*]
  · rw [ofExcept_ok, okOr_eq_ok, readBalance_eq_some]
    simp [*]

/-- The pallet can make the transfer. -/
def CanPay (T : Config Other) (K : Runtime Other AssetId) (w : World Other) (asset : AssetId) (target : AccountId)
    (amount : BitVec 128) : Prop :=
  ∃ w', (transferAsset K asset (palletAccount T) target amount .allowDeath .protect id).run w = (.ok (), w')

/-- The callback pays the amount to the account. -/
def Refunds (T : Config Other) (K : Runtime Other AssetId) (post : PostRequest) (w : World Other) (asset : AssetId)
    (target : AccountId) (amount : BitVec 128) : Prop :=
  ∃ w', (onTimeout T K (.request (.post post))).run w = (.ok (), w') ∧
    K.transferred w'.host.other = K.transferred w.host.other ++ [⟨asset, palletAccount T, target, amount⟩]

theorem transferAsset_ok_congr {ε δ : Type} {source target : AccountId} {native others : Remainder}
    {err : String → ε} {err' : String → δ} :
    (transferAsset K asset source target amount native others err).run w = (.ok (), w') ↔
      (transferAsset K asset source target amount native others err').run w = (.ok (), w') := by
  unfold transferAsset
  split <;> rw [invoke_ok, invoke_ok]

theorem payOut_ok {info : Meta} {body : Body} {target : AccountId} :
    (payOut T K info body target).run w = (.ok (), w') ↔ ∃ asset ercDecimals amount,
      (storageOf K w).localAssets body.assetId = some asset ∧ (storageOf K w).decimals asset = some ercDecimals ∧
      scale ercDecimals (localDecimals K asset w.host.other) ≠ 0 ∧
      body.amount.toNat / scale ercDecimals (localDecimals K asset w.host.other) = amount.toNat ∧
      (transferAsset K asset (palletAccount T) target amount .allowDeath .protect id).run w = (.ok (), w') := by
  simp only [payOut, query_bind_ok, gets_bind_run, okOr_eq_ok]
  constructor
  · rintro ⟨asset, hasset, ercDecimals, herc, h⟩
    obtain ⟨amount, w₁, hamount, h⟩ := bind_ok.mp h
    obtain ⟨hscale, hvalue, rfl⟩ := convertToBalance_ok.mp hamount
    exact ⟨asset, ercDecimals, amount, hasset, herc, hscale, hvalue, transferAsset_ok_congr.mp h⟩
  · rintro ⟨asset, ercDecimals, amount, hasset, herc, hscale, hvalue, h⟩
    exact ⟨asset, hasset, ercDecimals, herc, bind_ok.mpr
      ⟨amount, w, convertToBalance_ok.mpr ⟨hscale, hvalue, rfl⟩, transferAsset_ok_congr.mp h⟩⟩

variable {post : PostRequest}

theorem onTimeout_ok {body : Body} (hbody : post.body = 0 :: body.abiEncode) :
    (onTimeout T K (.request (.post post))).run w = (.ok (), w') ↔
      (payOut T K (.ofRequest (.post post)) body body.fromAccount).run w = (.ok (), w') := by
  have hdecode : Body.abiDecode body.abiEncode = some body := Body.abiDecode_eq_some.mpr rfl
  simp only [onTimeout, hbody, decodeBody, hdecode, ofExcept_bind_ok, okOr_eq_ok, Option.some.injEq, exists_eq_left']

def Leads (K : Runtime Other AssetId) (w : World Other) (asset : AssetId) (assetId : H256) (amount : BitVec 128)
    (ercDecimals decimals : UInt8) : Prop :=
  (storageOf K w).localAssets assetId = some asset ∧ ∃ ercDecimals',
    (storageOf K w).decimals asset = some ercDecimals' ∧
    Restores amount ercDecimals decimals ercDecimals' (localDecimals K asset w.host.other)

theorem refunds_iff :
    Refunds T K (teleported T who params assetId ercDecimals decimals w₀) w params.assetId who params.amount ↔
      Leads K w params.assetId assetId params.amount ercDecimals decimals ∧
        CanPay T K w params.assetId who params.amount := by
  have hbody : (teleported T who params assetId ercDecimals decimals w₀).body =
      0 :: (teleportBody who params assetId ercDecimals decimals).abiEncode := rfl
  unfold Refunds
  simp only [onTimeout_ok hbody, payOut_ok]
  have hsent : (teleportBody who params assetId ercDecimals decimals).amount.toNat =
      params.amount.toNat * scale ercDecimals decimals := toNat_convertToErc20 ..
  rw [hsent]
  constructor
  · rintro ⟨w', ⟨asset, erc', amount, hasset, herc, hscale, hvalue, htransfer⟩, hlog⟩
    obtain ⟨other, rfl, hmade⟩ := transferAsset_ok htransfer
    have hlog' : K.transferred other = _ := hlog
    rw [hmade] at hlog'
    have hsame := List.append_cancel_left hlog'
    simp only [List.cons.injEq, Transfer.mk.injEq, and_true, true_and] at hsame
    obtain ⟨rfl, -, rfl⟩ := hsame
    exact ⟨⟨hasset, erc', herc, hscale, hvalue⟩, _, htransfer⟩
  · rintro ⟨⟨hasset, erc', herc, hscale, hvalue⟩, w', htransfer⟩
    obtain ⟨other, rfl, hmade⟩ := transferAsset_ok htransfer
    exact ⟨_, ⟨params.assetId, erc', params.amount, hasset, herc, hscale, hvalue, htransfer⟩, hmade⟩

/-- The call may touch the entries of the asset. -/
def Call.Concerns (T : Config Other) (K : Runtime Other AssetId) (w : World Other) (asset : AssetId) (assetId : H256) :
    Call AssetId → Prop
  | createErc6160Asset _ registration => registration.localId = asset ∨ T.keccak256 registration.reg.symbol.1 = assetId
  | accept post => fromGovernor T post = true ∧
      ((∃ metadata, Codecs.assetMetadata.read post.body = some metadata ∧
        (T.keccak256 metadata.symbol.1 = assetId ∨
          (storageOf K w).localAssets (T.keccak256 metadata.symbol.1) = some asset ∨
          ∃ other, K.createAssetId metadata.symbol.1 w.host.other = .ok (asset, other))) ∨
      ∃ message, Codecs.deregisterAssets.read post.body = some message ∧
        ∃ id ∈ message.assetIds.1, id = assetId ∨ (storageOf K w).localAssets id = some asset)
  | _ => False

/-- The entries of the asset are as before. -/
structure Held (K : Runtime Other AssetId) (asset : AssetId) (assetId : H256) (w w' : World Other) : Prop where
  localAssets : (storageOf K w').localAssets assetId = (storageOf K w).localAssets assetId
  decimals : (storageOf K w').decimals asset = (storageOf K w).decimals asset
  assetsDecimals : K.assetsDecimals w'.host.other asset = K.assetsDecimals w.host.other asset

instance : IsPreorder (World Other) (Held K asset assetId) where
  refl _ := ⟨rfl, rfl, rfl⟩
  trans _ _ _ h h' := ⟨h'.1.trans h.1, h'.2.trans h.2, h'.3.trans h.3⟩

omit [DecidableEq AssetId] in
theorem Same.held (w w' : World Other) (h : Same K w w') : Held K asset assetId w w' := by
  refine ⟨?_, ?_, congrFun h.2 asset⟩
  · rw [h.1]
  · rw [h.1]

omit [DecidableEq AssetId] in
theorem held_updateStorage {f : Storage AssetId → Storage AssetId}
    (hlocal : (f (storageOf K w)).localAssets assetId = (storageOf K w).localAssets assetId)
    (hdecimals : (f (storageOf K w)).decimals asset = (storageOf K w).decimals asset) :
    Held K asset assetId w (updateStorage K f w) := by
  refine ⟨?_, ?_, congrFun (K.assetsDecimals_set _ _) asset⟩
  · rw [storageOf_updateStorage, hlocal]
  · rw [storageOf_updateStorage, hdecimals]

theorem held_insertAsset {asset' : AssetId} {assetId' : H256} (hasset : asset' ≠ asset) (hid : assetId' ≠ assetId)
    (ercDecimals : UInt8) (w : World Other) :
    Held K asset assetId w (updateStorage K (insertAsset asset' assetId' ercDecimals) w) :=
  held_updateStorage (Function.update_of_ne hid.symm ..) (Function.update_of_ne hasset.symm ..)

omit [DecidableEq AssetId] in
theorem held_setMetadata {asset' : AssetId} (hasset : asset' ≠ asset) {admin : AccountId} {name symbol : Bytes}
    {other : Other} (h : K.assetsSetMetadata asset' admin name symbol decimals w.host.other = .ok other) :
    Held K asset assetId w (others.set other w) := by
  obtain ⟨hstore, -, hdecimals⟩ := K.assetsSetMetadata_apart _ _ _ _ _ _ _ h
  have hsame : storageOf K (others.set other w) = storageOf K w := hstore
  exact ⟨by rw [hsame], by rw [hsame], hdecimals asset hasset.symm⟩

theorem removeAsset_held {s : Storage AssetId} {id : H256} (hid : id ≠ assetId)
    (hasset : s.localAssets id ≠ some asset) :
    (removeAsset s id).localAssets assetId = s.localAssets assetId ∧
      (removeAsset s id).decimals asset = s.decimals asset ∧
      ∀ id', (removeAsset s id).localAssets id' = some asset → s.localAssets id' = some asset := by
  unfold removeAsset
  cases hlocal : s.localAssets id with
  | none => exact ⟨rfl, rfl, fun _ h => h⟩
  | some asset' =>
    have hne : asset ≠ asset' := fun heq => hasset (hlocal.trans (congrArg some heq.symm))
    refine ⟨Function.update_of_ne hid.symm .., Function.update_of_ne hne .., fun id' h => ?_⟩
    have hentry : Function.update s.localAssets id none id' = some asset := h
    by_cases heq : id' = id
    · rw [heq, Function.update_self] at hentry
      cases hentry
    · rwa [Function.update_of_ne heq] at hentry

theorem removeAssets_held {assetIds : List H256} {s : Storage AssetId}
    (h : ∀ id ∈ assetIds, id ≠ assetId ∧ s.localAssets id ≠ some asset) :
    (assetIds.foldl removeAsset s).localAssets assetId = s.localAssets assetId ∧
      (assetIds.foldl removeAsset s).decimals asset = s.decimals asset := by
  induction assetIds generalizing s with
  | nil => exact ⟨rfl, rfl⟩
  | cons id assetIds ih =>
    obtain ⟨⟨hid, hasset⟩, hrest⟩ := List.forall_mem_cons.mp h
    obtain ⟨hlocal, hdecimals, hless⟩ := removeAsset_held hid hasset
    have htail : ∀ id' ∈ assetIds, id' ≠ assetId ∧ (removeAsset s id).localAssets id' ≠ some asset :=
      fun id' hid' => ⟨(hrest id' hid').1, fun heq => (hrest id' hid').2 (hless id' heq)⟩
    exact ⟨(ih htail).1.trans hlocal, (ih htail).2.trans hdecimals⟩

theorem held_onDeregister (h : ∀ message, Codecs.deregisterAssets.read post.body = some message →
      ∀ id ∈ message.assetIds.1, id ≠ assetId ∧ (storageOf K w).localAssets id ≠ some asset) :
    ∃ v, (onDeregister K post).run w = (.ok (), v) ∧ Held K asset assetId w v := by
  unfold onDeregister
  split
  · rename_i message hread
    obtain ⟨hlocal, hdecimals⟩ := removeAssets_held (h message hread)
    exact ⟨_, rfl, held_updateStorage hlocal hdecimals⟩
  · exact ⟨w, rfl, refl_of (Held K asset assetId) w⟩

omit [DecidableEq AssetId] in
theorem held_createAsset {metadata : AssetMetadata}
    (hnew : ∀ other, K.createAssetId metadata.symbol.1 w.host.other ≠ .ok (asset, other))
    (hret : ((createAsset K metadata).run w).1.returns = true) :
    Held K asset assetId w ((createAsset K metadata).run w).2 := by
  refine createAsset_keeps (fun created other hid => ?_) hret
  have hne : created ≠ asset := fun heq => hnew other (heq ▸ hid)
  refine ⟨?_, fun v other' h => ?_, fun v other' h => ?_⟩
  · obtain ⟨hstore, hdecimals⟩ := K.createAssetId_apart _ _ _ _ hid
    have hsame : Same K w (others.set other w) := ⟨hstore, hdecimals⟩
    exact hsame.held _ _
  · obtain ⟨hstore, hdecimals⟩ := K.assetsCreate_apart _ _ _ _ _ h
    have hsame : storageOf K (others.set other' v) = storageOf K v := hstore
    exact ⟨by rw [hsame], by rw [hsame], hdecimals asset hne.symm⟩
  · exact held_setMetadata hne h

theorem held_onMetadata {metadata : AssetMetadata} (hid : T.keccak256 metadata.symbol.1 ≠ assetId)
    (hknown : (storageOf K w).localAssets (T.keccak256 metadata.symbol.1) ≠ some asset)
    (hnew : ∀ other, K.createAssetId metadata.symbol.1 w.host.other ≠ .ok (asset, other))
    (hret : ((onMetadata T K metadata).run w).1.returns = true) :
    Held K asset assetId w ((onMetadata T K metadata).run w).2 := by
  cases hlocal : (storageOf K w).localAssets (T.keccak256 metadata.symbol.1) with
  | some asset' =>
    have hne : asset' ≠ asset := fun heq => hknown (hlocal.trans (congrArg some heq))
    have hkeeps : Keeps (Held K asset assetId) (renameAsset K asset' metadata >>= fun _ =>
        modify (updateStorage K (setDecimals asset' metadata.decimals))) :=
      Keeps.bind (keeps_invoke fun v other h => held_setMetadata hne h) fun _ =>
        Keeps.modify fun v => held_updateStorage rfl (Function.update_of_ne hne.symm ..)
    rw [onMetadata_run_of_known hlocal] at hret ⊢
    exact hkeeps w hret
  | none =>
    rw [onMetadata_run_of_unknown hlocal, bind_run] at hret ⊢
    have hheld : _ → Held K asset assetId w ((createAsset K metadata).run w).2 := held_createAsset hnew
    rcases hcreate : (createAsset K metadata).run w with ⟨created | e | m, v⟩ <;> rw [hcreate] at hheld
    · obtain ⟨other, hother⟩ := createAsset_ok hcreate
      have hne : created ≠ asset := fun heq => hnew other (heq ▸ hother)
      exact trans_of _ (hheld rfl) (held_insertAsset hne hid _ v)
    · exact hheld rfl
    · rw [hcreate] at hret
      cases hret

theorem held_accept (h : ¬ (Call.accept post : Call AssetId).Concerns T K w asset assetId)
    (hret : ((onAccept T K post).run w).1.returns = true) : Held K asset assetId w ((onAccept T K post).run w).2 := by
  have hreceive (v : World Other) (hret : ((receive T K post).run v).1.returns = true) :
      Held K asset assetId v ((receive T K post).run v).2 := (same_receive post v hret).held _ _
  by_cases hgov : fromGovernor T post = true
  · obtain ⟨hmetadata, hderegister⟩ := not_or.mp fun hor => h ⟨hgov, hor⟩
    cases hread : Codecs.assetMetadata.read post.body with
    | some metadata =>
      have hrun : onAccept T K post = onMetadata T K metadata := by rw [onAccept, if_pos hgov, hread]
      rw [hrun] at hret ⊢
      refine held_onMetadata (fun heq => hmetadata ⟨metadata, hread, .inl heq⟩)
        (fun heq => hmetadata ⟨metadata, hread, .inr (.inl heq)⟩)
        (fun other heq => hmetadata ⟨metadata, hread, .inr (.inr ⟨other, heq⟩)⟩) hret
    | none =>
      have hrun : onAccept T K post = onDeregister K post >>= fun _ => receive T K post := by
        rw [onAccept, if_pos hgov, hread]
      obtain ⟨v, hv, hheld⟩ : ∃ v, (onDeregister K post).run w = (.ok (), v) ∧ Held K asset assetId w v :=
        held_onDeregister fun message hmessage id hid =>
          not_or.mp fun hor => hderegister ⟨message, hmessage, id, hid, hor⟩
      rw [hrun, bind_run, hv] at hret ⊢
      exact trans_of _ hheld (hreceive v hret)
  · have hrun : onAccept T K post = receive T K post := by rw [onAccept, if_neg hgov]
    rw [hrun] at hret ⊢
    exact hreceive w hret

theorem Call.held (hT : Apart T K) {call : Call AssetId} (hcall : call.Runs T K w w')
    (h : ¬ call.Concerns T K w asset assetId) : Held K asset assetId w w' := by
  cases call with
  | teleport who params =>
    obtain ⟨c, hcall⟩ := hcall
    exact ((same_teleport hT who params).of_ok hcall).held _ _
  | createErc6160Asset who registration =>
    obtain ⟨c, hcall⟩ := hcall
    obtain ⟨hasset, hid⟩ := not_or.mp h
    obtain ⟨_, v, hfee, hcall⟩ := bind_ok.mp hcall
    rw [modify_bind_run] at hcall
    have hpaid : Held K asset assetId w v := ((same_chargeFee hT who).of_ok hfee).held _ _
    have htold : Held K asset assetId _ w' := ((same_tellGovernor hT who _).of_ok hcall).held _ _
    exact trans_of _ hpaid (trans_of _ (held_insertAsset hasset hid 18 v) htold)
  | updateErc6160Asset who update =>
    obtain ⟨c, hcall⟩ := hcall
    exact ((same_updateErc6160Asset hT who update).of_ok hcall).held _ _
  | setTokenGatewayAddresses addresses =>
    obtain ⟨-, rfl⟩ := Prod.mk.inj hcall
    exact held_updateStorage rfl rfl
  | accept post =>
    obtain ⟨hret, rfl⟩ := hcall
    exact held_accept h hret
  | timeout t =>
    obtain ⟨hret, rfl⟩ := hcall
    exact (same_onTimeout t w hret).held _ _

theorem Run.held (hT : Apart T K) {log : List (World Other × Call AssetId)} (hrun : Run T K w₁ log w)
    (hlog : ∀ p ∈ log, ¬ p.2.Concerns T K p.1 asset assetId) : Held K asset assetId w₁ w := by
  induction hrun with
  | start => exact refl_of (Held K asset assetId) w₁
  | call run hcall ih =>
    obtain ⟨hbefore, hlast⟩ := List.forall_mem_append.mp hlog
    exact trans_of _ (ih hbefore) (Call.held hT hcall (hlast _ (List.mem_singleton_self _)))
  | elsewhere run hsame ih => exact trans_of _ (ih hlog) (hsame.held _ _)

theorem leads_of_held (hlocal : (storageOf K w₁).localAssets assetId = some asset)
    (hsame : Same K w₀ w₁) (hdecimals : (storageOf K w₀).decimals asset = some ercDecimals)
    (hscale : scale ercDecimals (localDecimals K asset w₀.host.other) ≠ 0) (hheld : Held K asset assetId w₁ w)
    (amount : BitVec 128) : Leads K w asset assetId amount ercDecimals (localDecimals K asset w₀.host.other) := by
  have hmetadata : localDecimals K asset w.host.other = localDecimals K asset w₀.host.other := by
    rw [localDecimals, localDecimals, hheld.assetsDecimals, hsame.2]
  refine ⟨hheld.localAssets.trans hlocal, ercDecimals, ?_, ?_⟩
  · rw [hheld.decimals, hsame.1, hdecimals]
  · rw [hmetadata]
    exact restores_self hscale amount

/-- A teleport commits to its request. Whenever its timeout comes, the callback pays the amount of the asset back to the
sender exactly if the maps and the metadata then lead back to them and the payment is possible. They do if the asset id
led to the asset when it was sent, its power of ten is not zero, and no registration and no message of the governor in
between concerns the asset. -/
theorem teleport_timeout_refunded_iff (hT : Apart T K) (hteleport : (teleport T K who params).run w₀ = (.ok c, w₁)) :
    ∃ assetId ercDecimals, (storageOf K w₀).supportedAssets params.assetId = some assetId ∧
      (storageOf K w₀).decimals params.assetId = some ercDecimals ∧
      hashRequest T.keccak256 (.post (teleported T who params assetId ercDecimals
        (localDecimals K params.assetId w₀.host.other) w₀)) = some c ∧
      (w₁.host.requestCommitments c).isSome ∧
      (∀ w, Refunds T K (teleported T who params assetId ercDecimals (localDecimals K params.assetId w₀.host.other) w₀)
          w params.assetId who params.amount ↔
        Leads K w params.assetId assetId params.amount ercDecimals (localDecimals K params.assetId w₀.host.other) ∧
          CanPay T K w params.assetId who params.amount) ∧
      ∀ log w, Run T K w₁ log w → (storageOf K w₁).localAssets assetId = some params.assetId →
        scale ercDecimals (localDecimals K params.assetId w₀.host.other) ≠ 0 →
        (∀ p ∈ log, ¬ p.2.Concerns T K p.1 params.assetId assetId) → CanPay T K w params.assetId who params.amount →
        Refunds T K (teleported T who params assetId ercDecimals (localDecimals K params.assetId w₀.host.other) w₀)
          w params.assetId who params.amount := by
  obtain ⟨assetId, ercDecimals, hid, hdecimals, hhash, hrecorded⟩ := teleport_ok hteleport
  refine ⟨assetId, ercDecimals, hid, hdecimals, hhash, hrecorded, fun w => refunds_iff, ?_⟩
  intro log w hrun hlocal hscale hlog hpay
  have hsame := (same_teleport hT who params).of_ok hteleport
  exact refunds_iff.mpr ⟨leads_of_held hlocal hsame hdecimals hscale (hrun.held hT hlog) _, hpay⟩

/-- Five units of asset 1. -/
def sampleParams : TeleportParams Nat := ⟨1, .evm 1, BytesN.ofNat 32 0xb0b, 5, 10, [1], 0⟩

def teleportWorld : World SampleOther :=
  ((teleport sampleGateway sampleRuntime sampleAccount sampleParams).run (registered 1 emptyWorld)).2

def sampleTeleport : PostRequest :=
  teleported sampleGateway sampleAccount sampleParams sampleAssetId 18 10 (registered 1 emptyWorld)

def sampleTeleportCommitment : H256 := sampleDigest ((Request.post sampleTeleport).encode.getD [])

theorem sample_teleport : (teleport sampleGateway sampleRuntime sampleAccount sampleParams).run
    (registered 1 emptyWorld) = (.ok sampleTeleportCommitment, teleportWorld) := by
  have hcall : ((teleport sampleGateway sampleRuntime sampleAccount sampleParams).run (registered 1 emptyWorld)).1 =
      .ok sampleTeleportCommitment := by decide +kernel
  exact run_of_fst_ok hcall

theorem teleport_timeout_refunded_iff_sample :
    (teleport sampleGateway sampleRuntime sampleAccount sampleParams).run (registered 1 emptyWorld) =
        (.ok sampleTeleportCommitment, teleportWorld) ∧
      Refunds sampleGateway sampleRuntime sampleTeleport teleportWorld 1 sampleAccount 5 := by
  refine ⟨sample_teleport, ?_⟩
  obtain ⟨assetId, ercDecimals, hid, hdecimals, -, -, -, hrefund⟩ :=
    teleport_timeout_refunded_iff sample_apart sample_teleport
  have hlocal : localDecimals sampleRuntime sampleParams.assetId (registered 1 emptyWorld).host.other = 10 := by
    decide +kernel
  rw [sample_first.2] at hid hdecimals
  obtain rfl : sampleAssetId = assetId := Option.some.inj hid
  obtain rfl : (18 : UInt8) = ercDecimals := Option.some.inj hdecimals
  rw [hlocal] at hrefund
  refine hrefund [] teleportWorld .start ?_ (by decide +kernel) (by simp) ⟨_, rfl⟩
  rw [((same_teleport sample_apart _ _).of_ok sample_teleport).1, sample_first.2, localAssets_insertAsset]
  rfl

/-- The symbol is registered for asset 2 in between: the callback pays five units of asset 2. -/
theorem teleport_refunded_in_other_asset :
    (teleport sampleGateway sampleRuntime sampleAccount sampleParams).run (registered 1 emptyWorld) =
        (.ok sampleTeleportCommitment, teleportWorld) ∧
      Run sampleGateway sampleRuntime teleportWorld [(teleportWorld, sampleCall 2)] (registered 2 teleportWorld) ∧
      CanPay sampleGateway sampleRuntime (registered 2 teleportWorld) 1 sampleAccount 5 ∧
      Refunds sampleGateway sampleRuntime sampleTeleport (registered 2 teleportWorld) 2 sampleAccount 5 := by
  have hregister : ((createErc6160Asset sampleGateway sampleRuntime sampleAccount (sampleRegistration 2)).run
      teleportWorld).1.isOk = true := by decide +kernel
  have htimeout : ((onTimeout sampleGateway sampleRuntime (.request (.post sampleTeleport))).run
      (registered 2 teleportWorld)).1 = .ok () := by decide +kernel
  refine ⟨sample_teleport, .call .start (sample_registers hregister).1, ⟨_, rfl⟩, _, run_of_fst_ok htimeout, ?_⟩
  decide +kernel

end Hyperbridge.TokenGateway.Gateway

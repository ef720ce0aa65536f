import Hyperbridge.TokenGateway.Registry

/-!
# Deregistrations

The governor tells the gateway pallets which assets to forget. Its message has no tag, and `on_accept` tries to read
metadata from it first. If that fails the assets are removed, but the function goes on to what is meant for transfers
and returns an error; even where the governor is entered as a gateway and five ids read as a transfer.

A list of ids that reads as metadata removes nothing, and renames or creates an asset.
-/

namespace Hyperbridge.TokenGateway.Gateway

open Lib Exec Ismp

variable {Other AssetId : Type} [DecidableEq AssetId] {T : Config Other} {K : Runtime Other AssetId}
  {w w' : World Other} {post : PostRequest} {ids : Vec H256} {s s' : Storage AssetId}

/-- The list has an id of the asset. -/
def Listed (s : Storage AssetId) (ids : List H256) (asset : AssetId) : Prop := ∃ id ∈ ids, s.localAssets id = some asset

/-- The entries of the listed assets are gone, and no others. -/
structure Removed (s s' : Storage AssetId) (ids : List H256) : Prop where
  localAssets : ∀ id ∈ ids, s'.localAssets id = none
  localAssets_of_notMem : ∀ id ∉ ids, s'.localAssets id = s.localAssets id
  listed : ∀ asset, Listed s ids asset → s'.supportedAssets asset = none ∧ s'.decimals asset = none
  not_listed : ∀ asset, ¬ Listed s ids asset →
    s'.supportedAssets asset = s.supportedAssets asset ∧ s'.decimals asset = s.decimals asset
  addresses : s'.tokenGatewayAddresses = s.tokenGatewayAddresses

omit [DecidableEq AssetId] in
theorem removed_nil (s : Storage AssetId) : Removed s s [] where
  localAssets _ h := by cases h
  localAssets_of_notMem _ _ := rfl
  listed _ := by
    rintro ⟨id, h, -⟩
    cases h
  not_listed _ _ := ⟨rfl, rfl⟩
  addresses := rfl

variable {id : H256}

omit [DecidableEq AssetId] in
theorem Removed.cons_unknown {ids : List H256} (h : Removed s s' ids) (hid : s.localAssets id = none) :
    Removed s s' (id :: ids) := by
  have hlisted (asset : AssetId) : Listed s (id :: ids) asset ↔ Listed s ids asset := by
    simp [Listed, hid]
  refine ⟨fun x hx => ?_, fun x hx => ?_, fun asset hasset => ?_, fun asset hasset => ?_, h.addresses⟩
  · by_cases hmem : x ∈ ids
    · exact h.localAssets x hmem
    · rw [h.localAssets_of_notMem x hmem, (List.mem_cons.mp hx).resolve_right hmem, hid]
  · exact h.localAssets_of_notMem x fun hmem => hx (List.mem_cons_of_mem _ hmem)
  · exact h.listed asset ((hlisted asset).mp hasset)
  · exact h.not_listed asset fun hasset' => hasset ((hlisted asset).mpr hasset')

variable {known : AssetId}

theorem removeAsset_of_known (hid : s.localAssets id = some known) :
    (removeAsset s id).localAssets = Function.update s.localAssets id none ∧
      (removeAsset s id).supportedAssets = Function.update s.supportedAssets known none ∧
      (removeAsset s id).decimals = Function.update s.decimals known none ∧
      (removeAsset s id).tokenGatewayAddresses = s.tokenGatewayAddresses := by
  rw [removeAsset, hid]
  exact ⟨rfl, rfl, rfl, rfl⟩

variable {asset : AssetId}

theorem listed_removeAsset_iff {ids : List H256} (hid : s.localAssets id = some known) (hne : asset ≠ known) :
    Listed (removeAsset s id) ids asset ↔ Listed s (id :: ids) asset := by
  have hother {x : H256} (hx : s.localAssets x = some asset) : x ≠ id := by
    rintro rfl
    exact hne (Option.some.inj (hx.symm.trans hid))
  obtain ⟨hlocal, -⟩ := removeAsset_of_known hid
  constructor
  · rintro ⟨x, hx, hasset⟩
    refine ⟨x, List.mem_cons_of_mem _ hx, ?_⟩
    by_cases hxid : x = id
    · rw [hlocal, hxid, Function.update_self] at hasset
      cases hasset
    · rwa [hlocal, Function.update_of_ne hxid] at hasset
  · rintro ⟨x, hx, hasset⟩
    refine ⟨x, (List.mem_cons.mp hx).resolve_left (hother hasset), ?_⟩
    rw [hlocal, Function.update_of_ne (hother hasset), hasset]

theorem Removed.cons_known {ids : List H256} (hid : s.localAssets id = some known)
    (h : Removed (removeAsset s id) s' ids) : Removed s s' (id :: ids) := by
  obtain ⟨hlocal, hsupported, hdecimals, haddresses⟩ := removeAsset_of_known hid
  refine ⟨fun x hx => ?_, fun x hx => ?_, fun asset hasset => ?_, fun asset hasset => ?_, h.addresses.trans haddresses⟩
  · by_cases hmem : x ∈ ids
    · exact h.localAssets x hmem
    · rw [h.localAssets_of_notMem x hmem, (List.mem_cons.mp hx).resolve_right hmem, hlocal, Function.update_self]
  · rw [List.mem_cons, not_or] at hx
    rw [h.localAssets_of_notMem x hx.2, hlocal, Function.update_of_ne hx.1]
  · by_cases hagain : Listed (removeAsset s id) ids asset
    · exact h.listed asset hagain
    · -- then it is the asset of the first id
      have hkept := h.not_listed asset hagain
      obtain rfl : asset = known := by
        by_contra hne
        exact hagain ((listed_removeAsset_iff hid hne).mpr hasset)
      rwa [hsupported, hdecimals, Function.update_self, Function.update_self] at hkept
  · have hne : asset ≠ known := by
      rintro rfl
      exact hasset ⟨id, List.mem_cons_self, hid⟩
    have hkept := h.not_listed asset fun hagain => hasset ((listed_removeAsset_iff hid hne).mp hagain)
    rwa [hsupported, hdecimals, Function.update_of_ne hne, Function.update_of_ne hne] at hkept

/-- Removing a list removes its assets. -/
theorem removed_removeAssets (s : Storage AssetId) (ids : List H256) : Removed s (ids.foldl removeAsset s) ids := by
  induction ids generalizing s with
  | nil => exact removed_nil s
  | cons id ids ih =>
    rw [List.foldl_cons]
    cases hid : s.localAssets id with
    | none =>
      have hsame : removeAsset s id = s := by rw [removeAsset, hid]
      rw [hsame]
      exact (ih s).cons_unknown hid
    | some known => exact Removed.cons_known hid (ih _)

theorem encode_deregister (ids : Vec H256) :
    Codecs.deregisterAssets.encode ⟨ids⟩ = compact ids.1.length ++ abiWords ids.1 := by
  show compact ids.1.length ++ ids.1.flatMap (Codec.fixed 32).encode = _
  rw [List.flatMap_def]
  rfl

theorem assetId_mem_of_abiDecode {first : UInt8} {data : Bytes} {body : Body}
    (hbody : first :: data = Codecs.deregisterAssets.encode ⟨ids⟩) (hdecode : Body.abiDecode data = some body) :
    body.assetId ∈ ids.1 := by
  rw [encode_deregister] at hbody
  have hencode := Body.abiDecode_eq_some.mp hdecode
  have hlength : 161 = (compact ids.1.length).length + 32 * ids.1.length := by
    have h := congrArg List.length hbody
    rwa [List.length_cons, ← hencode, Body.length_abiEncode, List.length_append, length_abiWords] at h
  have hcompact (hn : ids.1.length < 2 ^ 6) : compact ids.1.length = leBytes 1 (4 * ids.1.length) := if_pos hn
  have hshort : ids.1.length < 2 ^ 6 := by omega
  rw [hcompact hshort] at hbody hlength
  rw [length_leBytes] at hlength
  obtain ⟨-, hdata⟩ := List.cons.inj hbody
  -- both lists of words have the same second word
  have hword : abiWord data 1 = some body.assetId := by
    have h := abiWord_abiWords (show 1 < body.words.length from Nat.le_of_ble_eq_true rfl) []
    rwa [List.append_nil, ← Body.abiEncode, hencode] at h
  have hword' : abiWord data 1 = ids.1[1]? := by
    have h := abiWord_abiWords (show 1 < ids.1.length by omega) []
    rw [List.append_nil] at h
    rw [hdata]
    exact h
  exact List.mem_of_getElem? (hword'.symm.trans hword)

theorem payOut_of_unknown {info : Meta} {body : Body} {beneficiary : AccountId}
    (h : (storageOf K w).localAssets body.assetId = none) :
    (payOut T K info body beneficiary).run w =
      (.err (.moduleDispatchError "Token Gateway: Unknown asset" info), w) := by
  unfold payOut
  rw [bind_run, query_run, h]
  rfl

/-- After the removal, reading a transfer fails. -/
theorem receive_of_removed (hbody : post.body = Codecs.deregisterAssets.encode ⟨ids⟩)
    (hgone : ∀ id ∈ ids.1, (storageOf K w).localAssets id = none) : ∃ e, (receive T K post).run w = (.err e, w) := by
  unfold receive
  rw [gets_bind_run]
  cases decide (post.fromModule ≠ ((storageOf K w).tokenGatewayAddresses post.source).getD [] ∧
    post.fromModule ≠ (tokenGatewayId T.keccak256).bytes) with
  | true => exact ⟨_, rfl⟩
  | false =>
    cases hcons : post.body with
    | nil =>
      rw [hcons] at hbody
      have hempty := Codec.read_encode Codecs.deregisterAssets ⟨ids⟩
      rw [← hbody] at hempty
      cases hempty
    | cons first data =>
      show ∃ e, ((ofExcept (okOr (Body.abiDecode data) _) >>= fun body => payOut T K _ body body.toAccount :
        Pallet Other Unit).run w) = (.err e, w)
      cases hdecode : Body.abiDecode data with
      | none => exact ⟨_, rfl⟩
      | some body =>
        exact ⟨_, payOut_of_unknown (hgone _ (assetId_mem_of_abiDecode (hcons.symm.trans hbody) hdecode))⟩

theorem onAccept_of_no_metadata (hgov : fromGovernor T post = true)
    (hbody : post.body = Codecs.deregisterAssets.encode ⟨ids⟩) (hread : Codecs.assetMetadata.read post.body = none) :
    ∃ e w', (onAccept T K post).run w = (.err e, w') ∧ Removed (storageOf K w) (storageOf K w') ids.1 := by
  have hremoved := removed_removeAssets (storageOf K w) ids.1
  have hstorage : storageOf K (updateStorage K (fun s => ids.1.foldl removeAsset s) w) =
      ids.1.foldl removeAsset (storageOf K w) := storageOf_updateStorage _ w
  have hmessage : Codecs.deregisterAssets.read post.body = some ⟨ids⟩ := by rw [hbody, Codec.read_encode]
  rw [← hstorage] at hremoved
  obtain ⟨e, herr⟩ := receive_of_removed (T := T) hbody hremoved.localAssets
  refine ⟨e, _, ?_, hremoved⟩
  rw [onAccept, if_pos hgov, hread]
  dsimp only
  rw [onDeregister, hmessage]
  exact herr

variable {metadata : AssetMetadata}

theorem onAccept_of_metadata (hgov : fromGovernor T post = true)
    (hread : Codecs.assetMetadata.read post.body = some metadata) : onAccept T K post = onMetadata T K metadata := by
  rw [onAccept, if_pos hgov, hread]

/-- The call returns, and the assets are removed. -/
def TakesEffect (T : Config Other) (K : Runtime Other AssetId) (post : PostRequest) (ids : Vec H256) (w : World Other) :
    Prop :=
  ∃ w', (onAccept T K post).run w = (.ok (), w') ∧ Removed (storageOf K w) (storageOf K w') ids.1

def NothingToDo (T : Config Other) (K : Runtime Other AssetId) (post : PostRequest) (ids : Vec H256) (w : World Other) :
    Prop :=
  ∃ metadata asset w', Codecs.assetMetadata.read post.body = some metadata ∧
    (storageOf K w).localAssets (T.keccak256 metadata.symbol.1) = some asset ∧
    (renameAsset K asset metadata).run w = (.ok (), w') ∧
    (storageOf K w).decimals asset = some metadata.decimals ∧ ∀ id ∈ ids.1, (storageOf K w).localAssets id = none

omit [DecidableEq AssetId] in
theorem storageOf_renameAsset
    (h : (renameAsset K asset metadata).run w = (.ok (), w')) : storageOf K w' = storageOf K w := by
  obtain ⟨other, hother, rfl⟩ := invoke_ok.mp h
  exact (K.assetsSetMetadata_apart _ _ _ _ _ _ _ hother).1

theorem removed_setDecimals_iff {ids : List H256} {ercDecimals : UInt8} :
    Removed s (setDecimals asset ercDecimals s) ids ↔
      s.decimals asset = some ercDecimals ∧ ∀ id ∈ ids, s.localAssets id = none := by
  constructor
  · intro h
    have hnone : ∀ id ∈ ids, s.localAssets id = none := fun id hid => h.localAssets id hid
    have hlisted : ¬ Listed s ids asset := by
      rintro ⟨id, hid, hasset⟩
      rw [hnone id hid] at hasset
      cases hasset
    have hset : (setDecimals asset ercDecimals s).decimals asset = some ercDecimals := Function.update_self ..
    exact ⟨(h.not_listed asset hlisted).2.symm.trans hset, hnone⟩
  · rintro ⟨hdecimals, hnone⟩
    have hsame : setDecimals asset ercDecimals s = s := by
      rw [setDecimals, ← hdecimals, Function.update_eq_self]
    rw [hsame]
    refine ⟨hnone, fun _ _ => rfl, fun a ha => ?_, fun _ _ => ⟨rfl, rfl⟩, rfl⟩
    obtain ⟨id, hid, hasset⟩ := ha
    rw [hnone id hid] at hasset
    cases hasset

theorem not_removed_insertAsset {ids : List H256} {assetId : H256} {ercDecimals : UInt8}
    (hunknown : s.localAssets assetId = none) : ¬ Removed s (insertAsset asset assetId ercDecimals s) ids := by
  intro h
  have hentered : (insertAsset asset assetId ercDecimals s).localAssets assetId = some asset := Function.update_self ..
  by_cases hmem : assetId ∈ ids
  · cases hentered.symm.trans (h.localAssets assetId hmem)
  · cases hentered.symm.trans ((h.localAssets_of_notMem assetId hmem).trans hunknown)

theorem takesEffect_of_known (hgov : fromGovernor T post = true)
    (hread : Codecs.assetMetadata.read post.body = some metadata)
    (hknown : (storageOf K w).localAssets (T.keccak256 metadata.symbol.1) = some asset) :
    TakesEffect T K post ids w ↔ ∃ w', (renameAsset K asset metadata).run w = (.ok (), w') ∧
        (storageOf K w).decimals asset = some metadata.decimals ∧
        ∀ id ∈ ids.1, (storageOf K w).localAssets id = none := by
  rw [TakesEffect, onAccept_of_metadata hgov hread, onMetadata_run_of_known hknown]
  constructor
  · rintro ⟨w', hrun, hremoved⟩
    obtain ⟨_, w₁, hrename, hrun⟩ := bind_ok.mp hrun
    obtain rfl := (Prod.mk.inj hrun).2
    rw [storageOf_updateStorage, storageOf_renameAsset hrename] at hremoved
    exact ⟨w₁, hrename, removed_setDecimals_iff.mp hremoved⟩
  · rintro ⟨w₁, hrename, hsame⟩
    refine ⟨_, bind_ok.mpr ⟨(), w₁, hrename, rfl⟩, ?_⟩
    rw [storageOf_updateStorage, storageOf_renameAsset hrename]
    exact removed_setDecimals_iff.mpr hsame

theorem not_takesEffect_of_unknown (hgov : fromGovernor T post = true)
    (hread : Codecs.assetMetadata.read post.body = some metadata)
    (hunknown : (storageOf K w).localAssets (T.keccak256 metadata.symbol.1) = none) :
    ¬ TakesEffect T K post ids w := by
  rintro ⟨w', hrun, hremoved⟩
  rw [onAccept_of_metadata hgov hread, onMetadata_run_of_unknown hunknown] at hrun
  obtain ⟨asset, w₁, hcreate, hrun⟩ := bind_ok.mp hrun
  obtain rfl := (Prod.mk.inj hrun).2
  have hstorage : storageOf K w₁ = storageOf K w := by
    have h := createAsset_storage (w := w) (K := K) (congrArg (·.1.returns) hcreate)
    rwa [hcreate] at h
  rw [storageOf_updateStorage, hstorage] at hremoved
  exact not_removed_insertAsset hunknown hremoved

theorem takesEffect_iff (hgov : fromGovernor T post = true) (hbody : post.body = Codecs.deregisterAssets.encode ⟨ids⟩) :
    TakesEffect T K post ids w ↔ NothingToDo T K post ids w := by
  cases hread : Codecs.assetMetadata.read post.body with
  | none =>
    obtain ⟨e, w', hrun, -⟩ := onAccept_of_no_metadata (K := K) (w := w) hgov hbody hread
    refine iff_of_false ?_ ?_
    · rintro ⟨w'', hok, -⟩
      cases hrun.symm.trans hok
    · rintro ⟨metadata, asset, w'', hmetadata, -⟩
      cases hread.symm.trans hmetadata
  | some metadata =>
    constructor
    · intro h
      cases hlocal : (storageOf K w).localAssets (T.keccak256 metadata.symbol.1) with
      | none => exact absurd h (not_takesEffect_of_unknown hgov hread hlocal)
      | some asset =>
        obtain ⟨w₁, hrest⟩ := (takesEffect_of_known hgov hread hlocal).mp h
        exact ⟨metadata, asset, w₁, hread, hlocal, hrest⟩
    · rintro ⟨metadata', asset, w₁, hmetadata, hlocal, hrest⟩
      exact (takesEffect_of_known hgov hmetadata hlocal).mpr ⟨w₁, hrest⟩

/-- The list is handled as metadata. -/
def TakenForMetadata (T : Config Other) (K : Runtime Other AssetId) (post : PostRequest) : Prop :=
  ∃ metadata, Codecs.assetMetadata.read post.body = some metadata ∧ onAccept T K post = onMetadata T K metadata

/-- A deregistration takes effect exactly if it reads as metadata that change nothing and lists nothing that is known.
Otherwise it is done and fails, or is taken for metadata. Metadata are never taken for a deregistration. So none takes
effect without being taken for metadata. -/
theorem deregistration_takes_effect_iff (hgov : fromGovernor T post = true)
    (hbody : post.body = Codecs.deregisterAssets.encode ⟨ids⟩) :
    (TakesEffect T K post ids w ↔ NothingToDo T K post ids w) ∧
      (Codecs.assetMetadata.read post.body = none →
        ∃ e w', (onAccept T K post).run w = (.err e, w') ∧ Removed (storageOf K w) (storageOf K w') ids.1) ∧
      (∀ metadata, Codecs.assetMetadata.read post.body = some metadata → onAccept T K post = onMetadata T K metadata) ∧
      (∀ (message : AssetMetadata) (other : PostRequest), fromGovernor T other = true →
        other.body = Codecs.assetMetadata.encode message → onAccept T K other = onMetadata T K message) ∧
      ¬ (TakesEffect T K post ids w ∧ ¬ TakenForMetadata T K post) := by
  refine ⟨takesEffect_iff hgov hbody, onAccept_of_no_metadata hgov hbody, fun _ => onAccept_of_metadata hgov,
    fun message other hother hmessage => onAccept_of_metadata hother ?_, ?_⟩
  · rw [hmessage, Codec.read_encode]
  · rintro ⟨heffect, hnot⟩
    obtain ⟨metadata, _, _, hread, -⟩ := (takesEffect_iff hgov hbody).mp heffect
    exact hnot ⟨metadata, hread, onAccept_of_metadata hgov hread⟩

def deregisterOne (id : H256) : PostRequest where
  source := .polkadot 3367
  dest := .polkadot 2000
  nonce := 0
  fromModule := tokenGovernorId
  toModule := (tokenGatewayId sampleDigest).bytes
  timeoutTimestamp := 0
  body := Codecs.deregisterAssets.encode ⟨⟨[id], length_one_id_le id⟩⟩

/-- It does not read as metadata. -/
def plainId : H256 := ⟨List.replicate 32 0xff, List.length_replicate⟩

/-- It reads as the name and symbol of an asset. -/
def textId : H256 := ⟨[0x41, 16, 0x55, 0x4e, 0x49, 0x54, 6] ++ List.replicate 25 0, rfl⟩

def plainWorld : World SampleOther := updateStorage sampleRuntime (insertAsset 5 plainId 18) emptyWorld

theorem deregistration_takes_effect_iff_sample :
    fromGovernor sampleGateway (deregisterOne plainId) = true ∧
      ∃ e w', (onAccept sampleGateway sampleRuntime (deregisterOne plainId)).run plainWorld = (.err e, w') ∧
        Removed (storageOf sampleRuntime plainWorld) (storageOf sampleRuntime w') [plainId] := by
  have hgov : fromGovernor sampleGateway (deregisterOne plainId) = true := by decide +kernel
  exact ⟨hgov, (deregistration_takes_effect_iff hgov rfl).2.1 (by decide +kernel)⟩

/-- The deregistration of the first id fails, after the removal. The deregistration of the second is accepted, and
gives the asset "UNIT" six decimals instead of 18. -/
theorem deregistration_fails_or_renames :
    ((onAccept sampleGateway sampleRuntime (deregisterOne plainId)).run plainWorld).1 =
        .err (.moduleDispatchError "Token Gateway: Unknown source contract address"
          (.ofRequest (.post (deregisterOne plainId)))) ∧
      ((onAccept sampleGateway sampleRuntime (deregisterOne textId)).run (registered 1 emptyWorld)).1 = .ok () ∧
      (storageOf sampleRuntime (registered 1 emptyWorld)).decimals 1 = some 18 ∧
      (storageOf sampleRuntime
        ((onAccept sampleGateway sampleRuntime (deregisterOne textId)).run (registered 1 emptyWorld)).2).decimals 1 =
        some 6 := by
  refine ⟨?_, ?_, ?_, ?_⟩
  · decide +kernel
  · decide +kernel
  · decide +kernel
  · decide +kernel

end Hyperbridge.TokenGateway.Gateway

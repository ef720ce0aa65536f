import Hyperbridge.TokenGovernor.Authority

/-!
# Registrations without a signed extrinsic

Whoever has paid for an asset on an EVM chain may have it registered by anyone with a signature of theirs. What is
signed is the id of the asset and nothing else. So the same signature is good for any owner, and for other chains and
supplies. A signature that has not 65 bytes makes the pallet panic.
-/

namespace Hyperbridge.TokenGovernor

open Lib Exec Ismp TokenGateway

variable {Other : Type} {T : Config Other} {K : Runtime Other} {w w' : World Other}
  {registration : UnsignedERC6160AssetRegistration}

def UnsignedERC6160AssetRegistration.assetId (T : Config Other) (r : UnsignedERC6160AssetRegistration) : H256 :=
  T.keccak256 r.asset.symbol.1

/-- The signature is of the account that has paid. -/
def Admits (T : Config Other) (K : Runtime Other) (w : World Other) (r : UnsignedERC6160AssetRegistration) : Prop :=
  ∃ pubKey, K.secp256k1EcdsaRecover r.signature.1 (r.assetId T) = some pubKey ∧
    (storageOf K w).pendingAsset (r.assetId T) = some (addressOf T pubKey)

/-- The submission succeeds. -/
def Acceptable (T : Config Other) (K : Runtime Other) (w : World Other) (r : UnsignedERC6160AssetRegistration) : Prop :=
  ∃ w', (registerAssetUnsigned T K r).run w = (.ok (), w')

theorem checkSignature_ok {assetId : H256} {signature : Bytes} {u : Unit} :
    (checkSignature T K assetId signature).run w = (.ok u, w') ↔ signature.length = 65 ∧
      (∃ pubKey, K.secp256k1EcdsaRecover signature assetId = some pubKey ∧
        (storageOf K w).pendingAsset assetId = some (addressOf T pubKey)) ∧ w = w' := by
  simp only [checkSignature, expect_bind_ok, ofExcept_bind_ok, query_bind_ok, okOr_eq_ok, throwIf_ok,
    decide_eq_false_iff_not, not_not, exists_and_right, BytesN.exists_ofBytes]
  refine and_congr_right fun _ => ?_
  constructor
  · rintro ⟨pubKey, hkey, owner, hpending, rfl, rfl⟩
    exact ⟨⟨pubKey, hkey, hpending⟩, rfl⟩
  · rintro ⟨⟨pubKey, hkey, hpending⟩, rfl⟩
    exact ⟨pubKey, hkey, _, hpending, rfl, rfl⟩

theorem panics_checkSignature {assetId : H256} {signature : Bytes} :
    Panics (checkSignature T K assetId signature) w ↔ signature.length ≠ 65 := by
  have hrest (pubKey : Bytes) (v : World Other) : ¬ Panics (query (fun w => okOr ((storageOf K w).pendingAsset assetId)
      Error.unknownAsset) >>= fun owner => throwIf (addressOf T pubKey ≠ owner) .notAssetOwner) v := by
    rw [panics_query_bind]
    simp
  unfold checkSignature
  simp only [panics_bind, panics_expect, not_panics_ofExcept, hrest, and_false, exists_false, or_false]
  simp [BytesN.ofBytes]

theorem ensureNew_ok {assetId : H256} {u : Unit} :
    (ensureNew K assetId).run w = (.ok u, w') ↔ (storageOf K w).assetOwners assetId = none ∧ w = w' := by
  rw [ensureNew, gets_bind_run, throwIf_ok]
  simp

theorem registerAsset_ok {asset : ERC6160AssetRegistration} {who : AccountId} {u : Unit} :
    (registerAsset T K asset who).run w = (.ok u, w') ↔
      (storageOf K w).assetOwners (T.keccak256 asset.symbol.1) = none ∧
      ∃ v, (forEach (deploy T K (T.keccak256 asset.symbol.1) asset.metadata) asset.chains).run w = (.ok (), v) ∧
        w' = updateStorage K (insertAsset (T.keccak256 asset.symbol.1) asset.metadata who) v := by
  simp only [registerAsset, bind_ok, ensureNew_ok]
  constructor
  · rintro ⟨_, _, ⟨hnone, rfl⟩, _, v, hdeploy, h⟩
    exact ⟨hnone, v, hdeploy, (Prod.mk.inj h).2.symm⟩
  · rintro ⟨hnone, v, hdeploy, rfl⟩
    exact ⟨(), w, ⟨hnone, rfl⟩, (), v, hdeploy, rfl⟩

theorem registerAssetUnsigned_ok :
    (registerAssetUnsigned T K registration).run w = (.ok (), w') ↔ registration.signature.1.length = 65 ∧
      Admits T K w registration ∧ (storageOf K w).assetOwners (registration.assetId T) = none ∧
      ∃ v, (forEach (deploy T K (registration.assetId T) registration.asset.metadata) registration.asset.chains).run w =
          (.ok (), v) ∧
        w' = updateStorage K (removePending (registration.assetId T)) (updateStorage K
            (insertAsset (registration.assetId T) registration.asset.metadata registration.owner) v) := by
  simp only [registerAssetUnsigned, bind_ok, checkSignature_ok, registerAsset_ok]
  constructor
  · rintro ⟨_, _, ⟨hlength, hadmits, rfl⟩, _, _, ⟨hnone, v, hdeploy, rfl⟩, h⟩
    exact ⟨hlength, hadmits, hnone, v, hdeploy, (Prod.mk.inj h).2.symm⟩
  · rintro ⟨hlength, hadmits, hnone, v, hdeploy, rfl⟩
    exact ⟨(), w, ⟨hlength, hadmits, rfl⟩, (), _, ⟨hnone, v, hdeploy, rfl⟩, rfl⟩

/-- What makes a submission acceptable. -/
theorem acceptable_iff :
    Acceptable T K w registration ↔ registration.signature.1.length = 65 ∧ Admits T K w registration ∧
      (storageOf K w).assetOwners (registration.assetId T) = none ∧
      ∃ v, (forEach (deploy T K (registration.assetId T) registration.asset.metadata) registration.asset.chains).run w =
        (.ok (), v) := by
  unfold Acceptable
  simp only [registerAssetUnsigned_ok]
  constructor
  · rintro ⟨_, hlength, hadmits, hnone, v, hdeploy, -⟩
    exact ⟨hlength, hadmits, hnone, v, hdeploy⟩
  · rintro ⟨hlength, hadmits, hnone, v, hdeploy⟩
    exact ⟨_, hlength, hadmits, hnone, v, hdeploy, rfl⟩

/-- The owner is not signed. -/
theorem acceptable_for_owner (h : Acceptable T K w registration) (owner : AccountId) :
    ∃ w', (registerAssetUnsigned T K { registration with owner := owner }).run w = (.ok (), w') ∧
      (storageOf K w').assetOwners (registration.assetId T) = some owner := by
  obtain ⟨hlength, hadmits, hnone, v, hdeploy⟩ := acceptable_iff.mp h
  refine ⟨_, registerAssetUnsigned_ok.mpr ⟨hlength, hadmits, hnone, v, hdeploy, rfl⟩, ?_⟩
  rw [storageOf_updateStorage, storageOf_updateStorage]
  exact Function.update_self ..

/-- Neither are the chains. -/
theorem acceptable_without_chains (h : Acceptable T K w registration) :
    Acceptable T K w { registration with asset := { registration.asset with chains := [] } } := by
  obtain ⟨hlength, hadmits, hnone, -⟩ := acceptable_iff.mp h
  exact acceptable_iff.mpr ⟨hlength, hadmits, hnone, w, rfl⟩

theorem panics_send {dest : StateMachine} {address : H160} {body : Bytes} :
    Panics (send T dest address body) w ↔ T.hostStateMachine.toText = none ∨ dest.toText = none := by
  unfold send
  simp [panics_bind, panics_dispatchRequest]

theorem not_panics_deploy {assetId : H256} {metadata : AssetMetadata} {target : ChainWithSupply}
    (hhost : T.hostStateMachine.toText ≠ none) (htarget : target.chain.toText ≠ none) (w : World Other) :
    ¬ Panics (deploy T K assetId metadata target) w := by
  have haddress (v : World Other) : ¬ Panics (gatewayAddress T K target.chain) v := by
    unfold gatewayAddress
    split
    · exact not_panics_pure _ v
    · exact not_panics_query _ v
  unfold deploy
  simp [panics_bind, haddress, panics_send, hhost, htarget]

theorem not_panics_registerAsset {asset : ERC6160AssetRegistration} (hhost : T.hostStateMachine.toText ≠ none)
    (hchains : ∀ target ∈ asset.chains, target.chain.toText ≠ none) (who : AccountId) (w : World Other) :
    ¬ Panics (registerAsset T K asset who) w := by
  have hdeploy (v : World Other) :
      ¬ Panics (forEach (deploy T K (T.keccak256 asset.symbol.1) asset.metadata) asset.chains) v :=
    not_panics_forEach (fun target htarget => not_panics_deploy hhost (hchains target htarget)) v
  unfold registerAsset ensureNew
  simp [panics_bind, hdeploy]

theorem panics_registerAssetUnsigned :
    Panics (registerAssetUnsigned T K registration) w ↔ registration.signature.1.length ≠ 65 ∨
      registration.signature.1.length = 65 ∧ Admits T K w registration ∧
        Panics (registerAsset T K registration.asset registration.owner) w := by
  unfold registerAssetUnsigned
  rw [panics_bind, panics_checkSignature]
  refine or_congr_right ?_
  simp only [checkSignature_ok, panics_bind, not_panics_modify, and_false, exists_false, or_false]
  constructor
  · rintro ⟨_, _, ⟨hlength, hadmits, rfl⟩, hpanics⟩
    exact ⟨hlength, hadmits, hpanics⟩
  · rintro ⟨hlength, hadmits, hpanics⟩
    exact ⟨(), w, ⟨hlength, hadmits, rfl⟩, hpanics⟩

/-- In every state: a submission panics if its signature has not 65 bytes, and else only where its registration does,
which takes a chain that cannot be written. If it succeeds, the account that paid for the asset has signed the asset's
id. It then succeeds for every owner, and without its chains, with the same signature; so no two submissions
with one signature and different owners are acceptable exactly if none with it is. -/
theorem unsigned_registration_iff (T : Config Other) (K : Runtime Other) (w : World Other) :
    (∀ r, Panics (registerAssetUnsigned T K r) w ↔ r.signature.1.length ≠ 65 ∨
      r.signature.1.length = 65 ∧ Admits T K w r ∧ Panics (registerAsset T K r.asset r.owner) w) ∧
    (∀ asset who, T.hostStateMachine.toText ≠ none → (∀ target ∈ asset.chains, target.chain.toText ≠ none) →
      ¬ Panics (registerAsset T K asset who) w) ∧
    (∀ r, Acceptable T K w r → Admits T K w r) ∧
    (∀ r, Acceptable T K w r → ∀ owner, ∃ w', (registerAssetUnsigned T K { r with owner := owner }).run w =
      (.ok (), w') ∧
      (storageOf K w').assetOwners (r.assetId T) = some owner) ∧
    (∀ r, Acceptable T K w r → Acceptable T K w { r with asset := { r.asset with chains := [] } }) ∧
    ∀ signature, (∀ r r', r.signature = signature → r'.signature = signature → Acceptable T K w r →
      Acceptable T K w r' → r.owner = r'.owner) ↔ ∀ r, r.signature = signature → ¬ Acceptable T K w r := by
  refine ⟨fun r => panics_registerAssetUnsigned, fun asset who hhost hchains =>
    not_panics_registerAsset hhost hchains who w,
    fun r h => (acceptable_iff.mp h).2.1, fun r h owner => acceptable_for_owner h owner,
    fun r h => acceptable_without_chains h, fun signature => ⟨fun hsame r hr h => ?_, fun hnone r r' hr _ h _ => ?_⟩⟩
  · have hzero : Acceptable T K w { r with owner := BytesN.zero 32 } :=
      (acceptable_for_owner h _).imp fun _ hrun => hrun.1
    have hone : Acceptable T K w { r with owner := BytesN.ofNat 32 1 } :=
      (acceptable_for_owner h _).imp fun _ hrun => hrun.1
    have howner : BytesN.zero 32 = BytesN.ofNat 32 1 :=
      hsame { r with owner := BytesN.zero 32 } { r with owner := BytesN.ofNat 32 1 } hr hr hzero hone
    revert howner
    decide
  · exact absurd h (hnone r hr)

def sampleSignature : Bounded UInt8 65 := ⟨List.replicate 65 7, by decide⟩

/-- The signer has paid for the asset. -/
def pendingWorld : World Storage :=
  ⟨{ sampleHost with other := { emptyStorage with
      pendingAsset := fun assetId =>
        if assetId = sampleAssetId then some (addressOf sampleGovernor sampleSignature.1) else none } }, []⟩

def sampleSubmission (signature : Bounded UInt8 65) (owner : AccountId) : UnsignedERC6160AssetRegistration :=
  ⟨⟨⟨asBytes "Unit", length_sampleName⟩, ⟨asBytes "UNIT", length_sampleSymbol⟩, [], none⟩, signature, owner⟩

/-- A signature of 64 bytes makes the pallet panic. With the right one, the asset is registered for whoever the
submission names. -/
theorem unsigned_registration_for_anyone :
    ((registerAssetUnsigned sampleGovernor sampleRuntime
        (sampleSubmission ⟨List.replicate 64 7, by decide⟩ (BytesN.ofNat 32 1))).run pendingWorld).1 =
      .panic "source slice length (64) does not match destination slice length (65)" ∧
    ((registerAssetUnsigned sampleGovernor sampleRuntime (sampleSubmission sampleSignature (BytesN.ofNat 32 1))).run
      pendingWorld).1 = .ok () ∧
    ((registerAssetUnsigned sampleGovernor sampleRuntime (sampleSubmission sampleSignature (BytesN.ofNat 32 2))).run
      pendingWorld).1 = .ok () := by
  decide +kernel

end Hyperbridge.TokenGovernor

import Hyperbridge.Nexus.Proxy
import Hyperbridge.TokenGateway.Contract

/-!
# What the inspector sees of a forwarded request

A request that takes an asset to an EVM chain must be covered by what its source has received; the inspector sees to
that. The contract there accepts two structs, with and without a call, and tells them apart by the length of the body.
The inspector decodes only the one without a call, so an asset that comes with a call passes uninspected.
-/

namespace Hyperbridge.Nexus

open Lib Exec Ismp TokenGateway
open TokenGateway.Contract (bodyBytesSize)

def incomingAsset (decodeWithCall : Bytes → Option BodyWithCall) (body : Bytes) : Option Body :=
  match body with
  | [] => none
  | action :: data =>
      if action = 0 then
        if bodyBytesSize < body.length then (decodeWithCall data).map (·.body) else Body.abiDecode data
      else none

variable {Other : Type} {T : Config Other} {N : Pallets Other} {w w' : World Other} {post : PostRequest} {body : Body}

theorem decodeBody_of_incomingAsset {bytes : Bytes} (h : incomingAsset BodyWithCall.read bytes = some body) :
    Contract.decodeBody bytes = .ok body := by
  cases bytes with
  | nil => cases h
  | cons action data =>
    rw [incomingAsset] at h
    rw [Contract.decodeBody]
    split at h
    · split at h
      · rename_i hlong
        rw [if_pos hlong, h]
      · rename_i hshort
        rw [if_neg hshort, (Option.filter_eq_some_iff.mp h).1]
    · cases h

/-- The storage of the inspector. -/
def inspected (N : Pallets Other) (w : World Other) : Inspector.Storage := N.inspector.get w.host.other

/-- The asset is native to the source. -/
def IsNative (s : Inspector.Storage) (source : StateMachine) (assetId : H256) : Prop :=
  s.standaloneChainAssets source assetId = some true

instance (s : Inspector.Storage) (source : StateMachine) (assetId : H256) : Decidable (IsNative s source assetId) :=
  inferInstanceAs (Decidable (_ = _))

structure Deducted (s s' : Inspector.Storage) (source : StateMachine) (body : Body) : Prop where
  covered : body.amount.toNat ≤ (s.inflowBalances (source, body.assetId)).toNat
  taken : (s'.inflowBalances (source, body.assetId)).toNat + body.amount.toNat =
    (s.inflowBalances (source, body.assetId)).toNat

theorem bodyOf_of_not_isEvm (hsource : post.source.isEvm = false) :
    Inspector.bodyOf post = Body.abiDecode (post.body.drop 1) := by
  simp [Inspector.bodyOf, hsource]

theorem bodyOf_of_incomingAsset {decodeWithCall : Bytes → Option BodyWithCall} (hsource : post.source.isEvm = false)
    (hbody : incomingAsset decodeWithCall post.body = some body) :
    Inspector.bodyOf post = if post.body.length ≤ bodyBytesSize then some body else none := by
  rw [bodyOf_of_not_isEvm hsource]
  cases hbytes : post.body with
  | nil =>
    rw [hbytes] at hbody
    cases hbody
  | cons action data =>
    rw [hbytes, incomingAsset] at hbody
    split at hbody
    · split at hbody
      · -- the struct without a call has no other length
        rename_i hlong
        rw [if_neg (Nat.not_le.mpr hlong)]
        rw [List.length_cons, bodyBytesSize] at hlong
        show Body.abiDecode data = none
        rw [Option.eq_none_iff_forall_ne_some]
        intro b hb
        have hlength := b.length_abiEncode
        rw [Body.abiDecode_eq_some.mp hb] at hlength
        omega
      · rename_i hshort
        rw [if_pos (Nat.not_lt.mp hshort)]
        exact hbody
    · cases hbody

theorem forward_ok {u : Unit} (h : (forward T N post).run w = (.ok u, w')) :
    ∃ s c, (Inspector.inspectRequest post).run (inspected N w) = (.ok (), s) ∧
      hashRequest T.keccak256 (.post post) = some c ∧ w.host.requestCommitments c = none ∧
      w' = withCommitment T ((others.comp N.inspector).set s w) (.post post) noFee c := by
  obtain ⟨_, w₁, hinspect, h⟩ := bind_ok.mp h
  obtain ⟨c, w₂, hcommit, h⟩ := bind_ok.mp h
  obtain ⟨-, rfl⟩ := Prod.mk.inj h
  obtain ⟨s, hs, rfl⟩ := zoom_ok.mp hinspect
  obtain ⟨hhash, hnew, rfl⟩ := commitRequest_ok.mp hcommit
  exact ⟨s, c, hs, hhash, hnew, rfl⟩

theorem inspected_withCommitment (hpush : ∀ leaf o, N.inspector.get (T.mmrPush leaf o).2 = N.inspector.get o)
    (request : Request) (fee : FeeMetadata) (c : H256) (s : Inspector.Storage) :
    inspected N (withCommitment T ((others.comp N.inspector).set s w) request fee c) = s := by
  show N.inspector.get (T.mmrPush (.request request) (N.inspector.set s w.host.other)).2 = s
  rw [hpush, N.inspector.get_set]

theorem balance_of_forward (hpush : ∀ leaf o, N.inspector.get (T.mmrPush leaf o).2 = N.inspector.get o)
    (hdest : post.dest.isEvm = true) {u : Unit} (h : (forward T N post).run w = (.ok u, w'))
    (k : StateMachine × H256) :
    ((inspected N w').inflowBalances k).toNat + Inspector.outflow (inspected N w).standaloneChainAssets post k =
      ((inspected N w).inflowBalances k).toNat := by
  obtain ⟨s, c, hinspect, -, -, rfl⟩ := forward_ok h
  rw [inspected_withCommitment hpush, (Inspector.inspectRequest_ok hinspect).2.balances k]
  unfold Inspector.inflow
  cases Inspector.bodyOf post with
  | none => rfl
  | some body => simp [hdest, Inspector.amountAt]

/-- A request of a chain that is not an EVM chain, forwarded to an EVM chain whose gateway takes it for an
incoming asset, has its amount covered and deducted, or an asset native to its source, exactly if the asset is
native, or the body has no call, or no amount is moved. -/
theorem forwarded_asset_inspected_iff (hpush : ∀ leaf o, N.inspector.get (T.mmrPush leaf o).2 = N.inspector.get o)
    {decodeWithCall : Bytes → Option BodyWithCall} (hsource : post.source.isEvm = false)
    (hdest : post.dest.isEvm = true) (hforward : post.dest ≠ T.hostStateMachine)
    (hok : ((proxyModule T N).onAccept post).run w = (.ok (), w'))
    (hbody : incomingAsset decodeWithCall post.body = some body) :
    (IsNative (inspected N w) post.source body.assetId ∨ Deducted (inspected N w) (inspected N w') post.source body) ↔
      IsNative (inspected N w) post.source body.assetId ∨ post.body.length ≤ bodyBytesSize ∨ body.amount = 0 := by
  have hrun : (forward T N post).run w = (.ok (), w') := by
    have happly : (proxyModule T N).onAccept post = forward T N post := if_neg hforward
    rwa [happly] at hok
  have hbalance := balance_of_forward hpush hdest hrun (post.source, body.assetId)
  rw [Inspector.outflow, bodyOf_of_incomingAsset hsource hbody] at hbalance
  by_cases hnative : IsNative (inspected N w) post.source body.assetId
  · simp [hnative]
  simp only [hnative, false_or]
  by_cases hshort : post.body.length ≤ bodyBytesSize
  · simp only [hshort, true_or, iff_true]
    have houtflow : Inspector.isOutflow (inspected N w).standaloneChainAssets post.source body.assetId = true := by
      unfold IsNative at hnative
      rcases hasset : (inspected N w).standaloneChainAssets post.source body.assetId with _ | _ | _ <;>
        simp_all [Inspector.isOutflow]
    rw [if_pos hshort] at hbalance
    have htaken : ((inspected N w').inflowBalances (post.source, body.assetId)).toNat + body.amount.toNat =
        ((inspected N w).inflowBalances (post.source, body.assetId)).toNat := by
      simpa [Inspector.amountAt, houtflow] using hbalance
    exact ⟨by omega, htaken⟩
  · -- nothing was taken, which is what it should be only for an amount of zero
    rw [if_neg hshort] at hbalance
    simp only [hshort, false_or]
    constructor
    · intro hdeducted
      have htaken := hdeducted.taken
      have hzero : body.amount.toNat = 0 := by
        simp only [Nat.add_zero] at hbalance
        omega
      exact BitVec.eq_of_toNat_eq hzero
    · intro hzero
      refine ⟨?_, ?_⟩
      · simp [hzero]
      · rw [hzero]
        exact hbalance

/-- An amount of 100 with a call of four bytes. -/
def assetWithCall : BodyWithCall :=
  ⟨⟨100, BytesN.ofNat 32 1, false, BytesN.ofNat 32 2, BytesN.ofNat 32 3⟩, [1, 2, 3, 4]⟩

def outgoingWithCall : PostRequest := { Inspector.outgoing with body := 0 :: assetWithCall.abiEncode }

theorem inspected_sampleWorld (s : Inspector.Storage) : inspected samplePallets (sampleWorld s) = s := rfl

theorem forwarded_asset_inspected_iff_sample :
    ∃ w', ((proxyModule (sampleNexus (.polkadot 2000)) samplePallets).onAccept Inspector.outgoing).run
        (sampleWorld Inspector.incomingStorage) = (.ok (), w') ∧
      Deducted Inspector.incomingStorage (inspected samplePallets w') (.polkadot 2000) assetWithCall.body := by
  have hcall : (((proxyModule (sampleNexus (.polkadot 2000)) samplePallets).onAccept Inspector.outgoing).run
      (sampleWorld Inspector.incomingStorage)).1 = .ok () := by decide +kernel
  have hasset : incomingAsset BodyWithCall.abiDecode Inspector.outgoing.body = some assetWithCall.body := by
    decide +kernel
  have hnative : ¬ IsNative Inspector.incomingStorage (.polkadot 2000) assetWithCall.body.assetId := by decide +kernel
  have hshort : Inspector.outgoing.body.length ≤ bodyBytesSize := by decide +kernel
  have hiff := forwarded_asset_inspected_iff (fun _ _ => rfl) rfl rfl (by decide) (run_of_fst_ok hcall) hasset
  rw [inspected_sampleWorld, show Inspector.outgoing.source = .polkadot 2000 from rfl] at hiff
  exact ⟨_, run_of_fst_ok hcall, (hiff.mpr (.inr (.inl hshort))).resolve_left hnative⟩

def emptyInflow : Inspector.Storage := ⟨fun _ => 0, Inspector.noAssets⟩

/-- With a call the request is forwarded though chain 2000 has received nothing. -/
theorem asset_with_call_uninspected :
    ∃ w', ((proxyModule (sampleNexus (.polkadot 2000)) samplePallets).onAccept outgoingWithCall).run
      (sampleWorld emptyInflow) = (.ok (), w') ∧
      incomingAsset BodyWithCall.abiDecode outgoingWithCall.body = some assetWithCall.body ∧
      ¬ IsNative emptyInflow (.polkadot 2000) assetWithCall.body.assetId ∧
      ¬ Deducted emptyInflow (inspected samplePallets w') (.polkadot 2000) assetWithCall.body := by
  have hcall : (((proxyModule (sampleNexus (.polkadot 2000)) samplePallets).onAccept outgoingWithCall).run
      (sampleWorld emptyInflow)).1 = .ok () := by decide +kernel
  refine ⟨_, run_of_fst_ok hcall, by decide +kernel, by decide +kernel, fun hdeducted => ?_⟩
  have hcovered := hdeducted.covered
  revert hcovered
  decide +kernel

end Hyperbridge.Nexus

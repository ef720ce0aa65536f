import Hyperbridge.Nexus.Proxy
import Hyperbridge.TokenGateway.Registry

/-!
# Bodies of any length

The callbacks of the token gateway, the XCM gateway and the inspector read a body behind its first byte, and none asks
whether there is one. So an empty body makes each of them panic, once the checks on where it comes from have passed. No
other body does. The panics that are left are about amounts: decimals that are too far apart, and balances that
overflow.
-/

namespace Hyperbridge.TokenGateway

open Lib Exec Ismp

def divisionText : String := "division by zero"

variable {Other AssetId : Type} [DecidableEq AssetId] {T : Config Other} {K : Gateway.Runtime Other AssetId}
  {N : Nexus.Pallets Other} {post : PostRequest} {w : World Other} {m : String}

theorem not_panics_invoke {ε : Type} (f : Other → Except String Other) (err : String → ε) (w : World Other) :
    ¬ Panics (invoke f err) w := by
  intro h
  obtain ⟨other, -, h⟩ := panics_query_bind.mp h
  exact not_panics_modify _ w h

namespace Gateway

theorem not_panics_transferAsset {ε : Type} (asset : AssetId) (source target : AccountId) (amount : BitVec 128)
    (native others : Remainder) (err : String → ε) (w : World Other) :
    ¬ Panics (transferAsset K asset source target amount native others err) w := by
  unfold transferAsset
  split
  · exact not_panics_invoke _ _ w
  · exact not_panics_invoke _ _ w

omit [DecidableEq AssetId] in
theorem not_panics_createAsset (metadata : AssetMetadata) (w : World Other) : ¬ Panics (createAsset K metadata) w := by
  intro h
  obtain ⟨created, -, h⟩ := panics_query_bind.mp h
  rw [panics_modify_bind] at h
  rcases panics_bind.mp h with h | ⟨_, t, -, h⟩
  · exact not_panics_invoke _ _ _ h
  · rcases panics_bind.mp h with h | ⟨_, t', -, h⟩
    · exact not_panics_invoke _ _ _ h
    · exact not_panics_pure _ _ h

theorem not_panics_onMetadata (metadata : AssetMetadata) (w : World Other) : ¬ Panics (onMetadata T K metadata) w := by
  intro h
  rcases panics_bind.mp h with h | ⟨found, t, -, h⟩
  · exact not_panics_gets _ _ h
  · cases found with
    | some asset =>
      rcases panics_bind.mp h with h | ⟨_, t', -, h⟩
      · exact not_panics_invoke _ _ _ h
      · exact not_panics_modify _ _ h
    | none =>
      rcases panics_bind.mp h with h | ⟨asset, t', -, h⟩
      · exact not_panics_createAsset _ _ h
      · exact not_panics_modify _ _ h

theorem panicsWith_decodeBody_bind {α : Type} {info : Meta} {body : Bytes} {f : Body → Pallet Other α} :
    PanicsWith m (decodeBody info body >>= f) w ↔ (body = [] ∧ sliceText = m) ∨
      ∃ first data decoded, body = first :: data ∧ Body.abiDecode data = some decoded ∧ PanicsWith m (f decoded) w := by
  cases body with
  | nil =>
    have hrun : PanicsWith m (decodeBody info [] >>= f) w ↔ sliceText = m := panicsWith_panicWith
    rw [hrun, and_iff_right rfl, or_iff_left]
    rintro ⟨first, data, decoded, h, -⟩
    cases h
  | cons first data =>
    rw [decodeBody, panicsWith_ofExcept_bind]
    simp [okOr_eq_ok]

/-- Paying out panics on decimals alone. -/
theorem payOut_panic {info : Meta} {body : Body} {beneficiary : AccountId}
    (h : PanicsWith m (payOut T K info body beneficiary) w) : m = divisionText := by
  obtain ⟨asset, -, h⟩ := panicsWith_query_bind.mp h
  rw [panicsWith_gets_bind] at h
  obtain ⟨ercDecimals, -, h⟩ := panicsWith_query_bind.mp h
  rcases panicsWith_bind.mp h with h | ⟨amount, t, -, h⟩
  · unfold convertToBalance at h
    split at h
    · exact (panicsWith_panicWith.mp h).symm
    · exact absurd h.panics (not_panics_ofExcept _ _)
  · exact absurd h.panics (not_panics_transferAsset _ _ _ _ _ _ _ _)

/-- The sender is a gateway the pallet knows. -/
def FromGateway (T : Config Other) (K : Runtime Other AssetId) (post : PostRequest) (w : World Other) : Prop :=
  post.fromModule = ((storageOf K w).tokenGatewayAddresses post.source).getD [] ∨
    post.fromModule = (tokenGatewayId T.keccak256).bytes

theorem panicsWith_receive : PanicsWith m (receive T K post) w ↔ FromGateway T K post w ∧
    ((post.body = [] ∧ sliceText = m) ∨ ∃ first data decoded, post.body = first :: data ∧
      Body.abiDecode data = some decoded ∧
      PanicsWith m (payOut T K (.ofRequest (.post post)) decoded decoded.toAccount) w) := by
  rw [receive, panicsWith_gets_bind, panicsWith_throwIf_bind, panicsWith_decodeBody_bind, decide_eq_false_iff_not,
    not_and_or, not_not, not_not]
  rfl

theorem onTimeout_slice_iff : PanicsWith sliceText (onTimeout T K (.request (.post post))) w ↔ post.body = [] := by
  have hdecode : PanicsWith sliceText (onTimeout T K (.request (.post post))) w ↔ _ := panicsWith_decodeBody_bind
  rw [hdecode, and_iff_left rfl, or_iff_left]
  rintro ⟨first, data, decoded, -, -, h⟩
  exact absurd (payOut_panic h) (by decide)

theorem onTimeout_other_panic (hm : m ≠ sliceText) (h : PanicsWith m (onTimeout T K (.request (.post post))) w) :
    m = divisionText := by
  rcases panicsWith_decodeBody_bind.mp h with ⟨-, hslice⟩ | ⟨first, data, decoded, -, -, h⟩
  · exact absurd hslice.symm hm
  · exact payOut_panic h

theorem receive_slice_iff : PanicsWith sliceText (receive T K post) w ↔ post.body = [] ∧ FromGateway T K post w := by
  rw [panicsWith_receive, and_iff_left rfl, or_iff_left, and_comm]
  rintro ⟨first, data, decoded, -, -, h⟩
  exact absurd (payOut_panic h) (by decide)

theorem receive_other_panic (hm : m ≠ sliceText) (h : PanicsWith m (receive T K post) w) : m = divisionText := by
  rcases (panicsWith_receive.mp h).2 with ⟨-, hslice⟩ | ⟨first, data, decoded, -, -, h⟩
  · exact absurd hslice.symm hm
  · exact payOut_panic h

theorem read_nil : Codecs.assetMetadata.read [] = none ∧ Codecs.deregisterAssets.read [] = none := ⟨rfl, rfl⟩

/-- The slice panics on an empty body. -/
theorem onAccept_slice_iff : PanicsWith sliceText (onAccept T K post) w ↔ post.body = [] ∧ FromGateway T K post w := by
  unfold onAccept
  split
  · cases hmetadata : Codecs.assetMetadata.read post.body with
    | some metadata =>
      refine iff_of_false (fun h => not_panics_onMetadata metadata w h.panics) fun h => ?_
      rw [h.1, read_nil.1] at hmetadata
      cases hmetadata
    | none =>
      dsimp only
      rw [onDeregister]
      cases hassets : Codecs.deregisterAssets.read post.body with
      | none => exact receive_slice_iff
      | some message =>
        have hne : post.body ≠ [] := by
          intro hnil
          rw [hnil, read_nil.2] at hassets
          cases hassets
        dsimp only
        rw [panicsWith_modify_bind, receive_slice_iff]
        exact iff_of_false (fun h => hne h.1) fun h => hne h.1
  · exact receive_slice_iff

theorem onAccept_other_panic (hm : m ≠ sliceText) (h : PanicsWith m (onAccept T K post) w) : m = divisionText := by
  unfold onAccept at h
  split at h
  · split at h
    · exact absurd h.panics (not_panics_onMetadata _ w)
    · rw [onDeregister] at h
      split at h
      · exact receive_other_panic hm h
      · exact receive_other_panic hm h
  · exact receive_other_panic hm h

end Gateway

namespace XcmGateway

open Nexus.XcmGateway

theorem not_panics_transfer (text : String) (info : Meta) (beneficiary : Bytes) (amount : BitVec 128)
    (w : World Other) : ¬ Panics (transfer N text info beneficiary amount) w := by
  intro h
  obtain ⟨other, -, h⟩ := panics_query_bind.mp h
  exact not_panics_modify _ w h

theorem decodeBody_eq (info : Meta) (body : Bytes) :
    (decodeBody info body : Pallet Other Body) = Gateway.decodeBody info body := by
  cases body <;> rfl

theorem panicsWith_decodeBody_bind {α : Type} {info : Meta} {body : Bytes} {f : Body → Pallet Other α}
    (hf : ∀ decoded w, ¬ Panics (f decoded) w) :
    PanicsWith m (decodeBody info body >>= f) w ↔ body = [] ∧ sliceText = m := by
  rw [decodeBody_eq, Gateway.panicsWith_decodeBody_bind, or_iff_left]
  rintro ⟨first, data, decoded, -, -, h⟩
  exact hf decoded w h.panics

theorem panicsWith_onAccept : PanicsWith m (onAccept T N post) w ↔
    post.fromModule = (N.tokenGatewayAddress w.host.other post.source).bytes ∧ post.source.isSubstrate = false ∧
      post.body = [] ∧ sliceText = m := by
  rw [onAccept, panicsWith_gets_bind, panicsWith_throwIf_bind, panicsWith_throwIf_bind, panicsWith_decodeBody_bind,
    bne_eq_false_iff_eq]
  intro decoded w h
  rcases panics_bind.mp h with h | ⟨_, t, -, h⟩
  · exact not_panics_throwIf _ _ _ h
  · rcases panics_bind.mp h with h | ⟨_, t', -, h⟩
    · exact not_panics_ofExcept _ _ h
    · exact not_panics_transfer _ _ _ _ _ h

/-- Something is recorded for the request. -/
def HasMetadata (T : Config Other) (post : PostRequest) (w : World Other) : Prop :=
  ∃ c metadata, hashRequest T.keccak256 (.post post) = some c ∧ w.host.requestCommitments c = some metadata

/-- The metadata are looked up first. -/
theorem panicsWith_onTimeout : PanicsWith m (onTimeout T N (.request (.post post))) w ↔
    (hashRequest T.keccak256 (.post post) = none ∧ displayPanic = m) ∨
      (HasMetadata T post w ∧ post.body = [] ∧ sliceText = m) := by
  have hrest (metadata : RequestMetadata) (info : Meta) (decoded : Body) (w : World Other) :
      ¬ Panics (readAmount info decoded >>= fun amount =>
        transfer N "Token Gateway: Failed to execute xcm to relay chain" info metadata.fee.payer amount) w := by
    intro h
    rcases panics_bind.mp h with h | ⟨_, t, -, h⟩
    · exact not_panics_ofExcept _ _ h
    · exact not_panics_transfer _ _ _ _ _ h
  rw [onTimeout, requestHash, panicsWith_expect_bind]
  refine or_congr Iff.rfl ?_
  constructor
  · rintro ⟨c, hc, h⟩
    obtain ⟨metadata, hmetadata, h⟩ := panicsWith_query_bind.mp h
    exact ⟨⟨c, metadata, hc, okOr_eq_ok.mp hmetadata⟩, (panicsWith_decodeBody_bind (hrest metadata _)).mp h⟩
  · rintro ⟨⟨c, metadata, hc, hmetadata⟩, h⟩
    refine ⟨c, hc, panicsWith_query_bind.mpr ⟨metadata, okOr_eq_ok.mpr hmetadata, ?_⟩⟩
    exact (panicsWith_decodeBody_bind (hrest metadata _)).mpr h

end XcmGateway

namespace Inspector

variable {s : Storage}

/-- Not between two EVM chains. -/
def Inspected (post : PostRequest) : Prop := ¬ (post.source.isEvm = true ∧ post.dest.isEvm = true)

theorem panicsWith_isTokenGatewayRequest_bind {body : Bytes} {f : Option Body → Exec Storage Error Unit} :
    PanicsWith m (isTokenGatewayRequest body >>= f) s ↔ (body = [] ∧ sliceText = m) ∨
      ∃ first data, body = first :: data ∧ PanicsWith m (f (Body.abiDecode data)) s := by
  cases body with
  | nil =>
    have hrun : PanicsWith m (isTokenGatewayRequest [] >>= f) s ↔ sliceText = m := panicsWith_panicWith
    simp [hrun]
  | cons first data =>
    have hrun : PanicsWith m (isTokenGatewayRequest (first :: data) >>= f) s ↔
      PanicsWith m (f (Body.abiDecode data)) s := Iff.rfl
    simp [hrun]

variable {f : Body → Exec Storage Error Unit}

theorem panicsWith_onBody : PanicsWith m (onBody post f) s ↔ Inspected post ∧
    ((post.body = [] ∧ sliceText = m) ∨ ∃ first data decoded, post.body = first :: data ∧
      Body.abiDecode data = some decoded ∧ PanicsWith m (f decoded) s) := by
  unfold onBody Inspected
  rw [← Bool.and_eq_true]
  split
  · next hevm => exact iff_of_false (fun h => not_panics_pure () s h.panics) fun h => h.1 hevm
  · next hevm =>
    rw [and_iff_right hevm, panicsWith_isTokenGatewayRequest_bind]
    refine or_congr Iff.rfl (exists_congr fun first => exists_congr fun data => ?_)
    cases hdecode : Body.abiDecode data with
    | some decoded => simp
    | none =>
      refine iff_of_false (fun h => not_panics_pure () s h.2.panics) ?_
      rintro ⟨decoded, -, h, -⟩
      cases h

theorem mutateIf_panic {c : Bool} {key : StateMachine × H256} {f : U256 → Option U256}
    (h : PanicsWith m (if c then mutateInflow key f else pure ()) s) : m = U256.overflowText := by
  obtain ⟨t, h⟩ := h
  rcases mutateIf_cases c key f s with ⟨s', hok⟩ | hpanic
  · cases hok.symm.trans h
  · exact (Outcome.panic.inj (Prod.mk.inj (hpanic.symm.trans h)).1).symm

theorem inspectBody_panic {source dest : StateMachine} {body : Body}
    (h : PanicsWith m (inspectBody source dest body) s) : m = U256.overflowText := by
  rcases panicsWith_bind.mp h with h | ⟨_, t, -, h⟩
  · exact mutateIf_panic h
  · rw [panicsWith_gets_bind] at h
    rcases panicsWith_bind.mp h with h | ⟨_, t', -, h⟩
    · exact absurd (panicsWith_gets_bind.mp h).panics (not_panics_throwIf _ _ _)
    · exact mutateIf_panic h

theorem revertBody_panic {source dest : StateMachine} {body : Body}
    (h : PanicsWith m (revertBody source dest body) s) : m = U256.overflowText := by
  rw [revertBody, panicsWith_gets_bind] at h
  rcases panicsWith_bind.mp h with h | ⟨_, t, -, h⟩
  · exact mutateIf_panic h
  · exact mutateIf_panic h

theorem onBody_slice_iff (hf : ∀ decoded m, PanicsWith m (f decoded) s → m = U256.overflowText) :
    PanicsWith sliceText (onBody post f) s ↔ post.body = [] ∧ Inspected post := by
  rw [panicsWith_onBody, and_iff_left rfl, or_iff_left, and_comm]
  rintro ⟨first, data, decoded, -, -, h⟩
  exact absurd (hf decoded _ h) (by decide)

theorem onBody_other_panic (hf : ∀ decoded m, PanicsWith m (f decoded) s → m = U256.overflowText) (hm : m ≠ sliceText)
    (h : PanicsWith m (onBody post f) s) : m = U256.overflowText := by
  rcases (panicsWith_onBody.mp h).2 with ⟨-, hslice⟩ | ⟨first, data, decoded, -, -, h⟩
  · exact absurd hslice.symm hm
  · exact hf decoded m h

end Inspector

/-- On account of the body the callbacks panic exactly if it is empty and the checks before it pass. They panic
otherwise only where decimals are too far apart, a chain cannot be named or a balance overflows. -/
theorem callbacks_abort_iff (T : Config Other) (K : Gateway.Runtime Other AssetId) (N : Nexus.Pallets Other)
    (post : PostRequest) (w : World Other) (s : Inspector.Storage) :
    (PanicsWith sliceText (Gateway.onAccept T K post) w ↔ post.body = [] ∧ Gateway.FromGateway T K post w) ∧
      (PanicsWith sliceText (Gateway.onTimeout T K (.request (.post post))) w ↔ post.body = []) ∧
      (PanicsWith sliceText (Nexus.XcmGateway.onAccept T N post) w ↔ post.body = [] ∧
        post.fromModule = (N.tokenGatewayAddress w.host.other post.source).bytes ∧ post.source.isSubstrate = false) ∧
      (PanicsWith sliceText (Nexus.XcmGateway.onTimeout T N (.request (.post post))) w ↔ post.body = [] ∧
        XcmGateway.HasMetadata T post w) ∧
      (PanicsWith sliceText (Inspector.inspectRequest post) s ↔ post.body = [] ∧ Inspector.Inspected post) ∧
      (PanicsWith sliceText (Inspector.handleTimeout post) s ↔ post.body = [] ∧ Inspector.Inspected post) ∧
      ∀ m, m ≠ sliceText → (PanicsWith m (Gateway.onAccept T K post) w → m = divisionText) ∧
        (PanicsWith m (Gateway.onTimeout T K (.request (.post post))) w → m = divisionText) ∧
        ¬ PanicsWith m (Nexus.XcmGateway.onAccept T N post) w ∧
        (PanicsWith m (Nexus.XcmGateway.onTimeout T N (.request (.post post))) w → m = displayPanic) ∧
        (PanicsWith m (Inspector.inspectRequest post) s → m = U256.overflowText) ∧
        (PanicsWith m (Inspector.handleTimeout post) s → m = U256.overflowText) := by
  refine ⟨Gateway.onAccept_slice_iff, Gateway.onTimeout_slice_iff, ?_, ?_,
    Inspector.onBody_slice_iff fun _ _ => Inspector.inspectBody_panic,
    Inspector.onBody_slice_iff fun _ _ => Inspector.revertBody_panic, fun m hm => ⟨Gateway.onAccept_other_panic hm,
      Gateway.onTimeout_other_panic hm, ?_, ?_,
      Inspector.onBody_other_panic (fun _ _ => Inspector.inspectBody_panic) hm,
      Inspector.onBody_other_panic (fun _ _ => Inspector.revertBody_panic) hm⟩⟩
  · rw [XcmGateway.panicsWith_onAccept, and_iff_left rfl]
    exact ⟨fun ⟨hmodule, hsource, hbody⟩ => ⟨hbody, hmodule, hsource⟩,
      fun ⟨hbody, hmodule, hsource⟩ => ⟨hmodule, hsource, hbody⟩⟩
  · have hne : displayPanic ≠ sliceText := by decide
    rw [XcmGateway.panicsWith_onTimeout, and_iff_left rfl, or_iff_right fun h => hne h.2, and_comm]
  · rw [XcmGateway.panicsWith_onAccept]
    exact fun h => hm h.2.2.2.symm
  · intro h
    rcases XcmGateway.panicsWith_onTimeout.mp h with ⟨-, htext⟩ | ⟨-, -, htext⟩
    · exact htext.symm
    · exact absurd htext.symm hm

def emptyRequest : PostRequest := { Inspector.incoming with body := [] }

/-- The inspector and the token gateway panic on it. -/
theorem empty_body_panics :
    PanicsWith sliceText (Inspector.inspectRequest emptyRequest) ⟨fun _ => 0, Inspector.noAssets⟩ ∧
      PanicsWith sliceText (Gateway.onTimeout Gateway.sampleGateway Gateway.sampleRuntime
        (.request (.post emptyRequest))) Gateway.emptyWorld :=
  ⟨⟨_, rfl⟩, ⟨_, rfl⟩⟩

end Hyperbridge.TokenGateway

import Hyperbridge.Nexus.Proxy

/-!
# Teleports that time out

A teleport that times out is to be refunded to the payer recorded under the commitment of the request. But the timeout
handler removes the commitment before the callback. So the gateway finds nothing and fails, and the timeout can be tried
again, with the same result. If the address of the gateway has changed, the proxy does not even ask it.
-/

namespace Hyperbridge.Nexus.XcmGateway

open Lib Exec Ismp TokenGateway

variable {Other : Type} {T : Config Other} {N : Pallets Other} {w w' w₀ w₁ : World Other} {post : PostRequest}
  {account : MultiAccount} {amount : BitVec 128} {c : H256}

/-- The request of a teleport. -/
def teleported (T : Config Other) (N : Pallets Other) (account : MultiAccount) (amount : BitVec 128)
    (w : World Other) : PostRequest where
  source := T.hostStateMachine
  dest := account.destStateMachine
  nonce := w.host.nonce
  fromModule := (N.tokenGatewayAddress w.host.other account.destStateMachine).bytes
  toModule := (N.tokenGatewayAddress w.host.other account.destStateMachine).bytes
  timeoutTimestamp := if account.timeout = 0 then 0 else saturatingAdd (asSecs w.host.now) account.timeout
  body := 0 :: (teleportBody T account amount).abiEncode

theorem dispatchTeleport_ok (h : (dispatchTeleport T N account amount).run w = (.ok c, w')) :
    hashRequest T.keccak256 (.post (teleported T N account amount w)) = some c ∧
      (w'.host.requestCommitments c).map (·.fee) = some ⟨account.substrateAccount.bytes, 0⟩ := by
  have hcommit : (commitRequest T (.post (teleported T N account amount w)) ⟨account.substrateAccount.bytes, 0⟩).run
      ⟨{ w.host with nonce := w.host.nonce + 1 }, w.trace⟩ = (.ok c, w') := h
  obtain ⟨hhash, -, rfl⟩ := commitRequest_ok.mp hcommit
  refine ⟨hhash, ?_⟩
  show (Function.update w.host.requestCommitments c _ c).map (·.fee) = _
  rw [Function.update_self]
  rfl

theorem convertToBalance_convertToErc20 (amount : BitVec 128) :
    convertToBalance (convertToErc20 amount) = some amount := by
  have hamount := amount.isLt
  have hlt : amount.toNat * 10 ^ (18 - 10) < 2 ^ 256 := by omega
  have hvalue : (convertToErc20 amount).toNat / 10 ^ (18 - 10) = amount.toNat := by
    rw [convertToErc20, BitVec.toNat_ofNat, Nat.mod_eq_of_lt hlt, Nat.mul_div_cancel _ (by decide)]
  rw [convertToBalance, hvalue, if_pos hamount, BitVec.ofNat_toNat, BitVec.setWidth_eq]

theorem fromBytes_address (address : H160) : ModuleId.fromBytes address.bytes = .ok (.evm address) := by
  have hlength := address.length_bytes
  have hpallet : BytesN.ofBytes 8 address.bytes = none := dif_neg (by omega)
  have hcontract : BytesN.ofBytes 32 address.bytes = none := dif_neg (by omega)
  rw [ModuleId.fromBytes, hpallet, hcontract, BytesN.ofBytes_eq_some.mpr rfl]

theorem transfer_ok {text : String} {info : Meta} {beneficiary : Bytes} :
    (transfer N text info beneficiary amount).run w = (.ok (), w') ↔
      ∃ other, N.reserveTransfer beneficiary amount w.host.other = .ok other ∧ w' = others.set other w := by
  rw [transfer, reads_bind_ok]
  constructor
  · rintro ⟨other, hother, h⟩
    obtain ⟨-, rfl⟩ := Prod.mk.inj h
    cases htransfer : N.reserveTransfer beneficiary amount w.host.other with
    | ok other' =>
      rw [htransfer] at hother
      obtain rfl := Except.ok.inj hother
      exact ⟨other', rfl, rfl⟩
    | error e =>
      rw [htransfer] at hother
      cases hother
  · rintro ⟨other, htransfer, rfl⟩
    exact ⟨other, by rw [htransfer], rfl⟩

/-- The refund goes to the payer on record. -/
theorem onTimeout_ok (hbody : post.body = 0 :: (teleportBody T account amount).abiEncode)
    (hhash : hashRequest T.keccak256 (.post post) = some c) :
    (onTimeout T N (.request (.post post))).run w = (.ok (), w') ↔
      ∃ metadata other, w.host.requestCommitments c = some metadata ∧
        N.reserveTransfer metadata.fee.payer amount w.host.other = .ok other ∧ w' = others.set other w := by
  have hdecode : Body.abiDecode (teleportBody T account amount).abiEncode = some (teleportBody T account amount) :=
    Body.abiDecode_eq_some.mpr rfl
  have hamount : convertToBalance (teleportBody T account amount).amount = some amount :=
    convertToBalance_convertToErc20 amount
  simp only [onTimeout, requestHash, hhash, hbody, decodeBody, readAmount, hdecode, hamount, expect, pure_bind_run,
    reads_bind_ok, okOr_eq_ok, ofExcept_bind_ok, Option.some.injEq, exists_eq_left', transfer_ok]
  constructor
  · rintro ⟨metadata, hmetadata, other, hother, rfl⟩
    exact ⟨metadata, other, hmetadata, hother, rfl⟩
  · rintro ⟨metadata, other, hmetadata, hother, rfl⟩
    exact ⟨metadata, hmetadata, other, hother, rfl⟩

theorem proxy_onTimeout_run {address : H160} (hsource : post.source = T.hostStateMachine)
    (hfrom : post.fromModule = address.bytes) (w : World Other) :
    ((proxyModule T N).onTimeout (.request (.post post))).run w =
      if N.tokenGatewayAddress w.host.other post.dest = address then (onTimeout T N (.request (.post post))).run w
      else (.ok (), w) := by
  show (uninspect T N post >>= fun _ => timeoutHere T N (.request (.post post)) post.fromModule post.dest).run w = _
  rw [uninspect, if_pos hsource, pure_bind_run, timeoutHere, hfrom, fromBytes_address]
  show (if ModuleId.evm address = ModuleId.evm _ then _ else pure () : Pallet Other Unit).run w = _
  by_cases hsame : N.tokenGatewayAddress w.host.other post.dest = address
  · rw [if_pos hsame, if_pos (congrArg ModuleId.evm hsame.symm)]
  · rw [if_neg hsame, if_neg fun heq => hsame (ModuleId.evm.inj heq).symm]
    rfl

/-- The callback transfers the amount to the account. -/
def Refunds (T : Config Other) (N : Pallets Other) (post : PostRequest) (w : World Other) (account : Bytes)
    (amount : BitVec 128) : Prop :=
  ∃ w', ((proxyModule T N).onTimeout (.request (.post post))).run w = (.ok (), w') ∧
    N.sent w'.host.other = N.sent w.host.other ++ [(account, amount)]

theorem refunds_iff {address : H160} (hsource : post.source = T.hostStateMachine)
    (hfrom : post.fromModule = address.bytes) (hbody : post.body = 0 :: (teleportBody T account amount).abiEncode)
    (hhash : hashRequest T.keccak256 (.post post) = some c) {payer : Bytes}
    (hfunds : ∃ other, N.reserveTransfer payer amount w.host.other = .ok other) :
    Refunds T N post w payer amount ↔ N.tokenGatewayAddress w.host.other post.dest = address ∧
      (w.host.requestCommitments c).map (·.fee.payer) = some payer := by
  unfold Refunds
  rw [proxy_onTimeout_run hsource hfrom]
  by_cases hsame : N.tokenGatewayAddress w.host.other post.dest = address
  · rw [if_pos hsame]
    simp only [onTimeout_ok hbody hhash, hsame, true_and]
    constructor
    · rintro ⟨_, ⟨metadata, other, hmetadata, hother, rfl⟩, hsent⟩
      have hlog : N.sent other = N.sent w.host.other ++ [(payer, amount)] := hsent
      rw [N.sent_reserveTransfer _ _ _ _ hother] at hlog
      have hpayer := List.append_cancel_left hlog
      rw [hmetadata]
      simp only [List.cons.injEq, Prod.mk.injEq, and_true] at hpayer
      exact congrArg some hpayer
    · intro hpayer
      obtain ⟨metadata, hmetadata, rfl⟩ := Option.map_eq_some_iff.mp hpayer
      obtain ⟨other, hother⟩ := hfunds
      exact ⟨_, ⟨metadata, other, hmetadata, hother, rfl⟩, N.sent_reserveTransfer _ _ _ _ hother⟩
  · rw [if_neg hsame]
    simp only [hsame, false_and, iff_false]
    rintro ⟨w', hrun, hsent⟩
    obtain ⟨-, rfl⟩ := Prod.mk.inj hrun
    simp at hsent

theorem not_refunded_of_timedOut {address : H160} (hsource : post.source = T.hostStateMachine)
    (hfrom : post.fromModule = address.bytes) (hbody : post.body = 0 :: (teleportBody T account amount).abiEncode)
    {routed : Bool} (h : TimedOut (runtime T N) (.post post) routed w w') :
    N.tokenGatewayAddress w.host.other post.dest ≠ address ∧ w'.host.other = w.host.other := by
  obtain ⟨inner, c, w₂, hinner, hhash, -, hcall, rfl⟩ := h
  obtain rfl : proxyModule T N = inner := Except.ok.inj hinner
  obtain ⟨w₁, hproxy, hback⟩ := refundingModule_ok hcall
  rw [proxy_onTimeout_run hsource hfrom] at hproxy
  have hgone : (underTimeout w (.post post) c routed).host.requestCommitments c = none := Function.update_self ..
  by_cases hsame : N.tokenGatewayAddress w.host.other post.dest = address
  · have hasked : N.tokenGatewayAddress (underTimeout w (.post post) c routed).host.other post.dest = address := hsame
    rw [if_pos hasked] at hproxy
    obtain ⟨metadata, _, hmetadata, -⟩ := (onTimeout_ok hbody hhash).mp hproxy
    rw [hgone] at hmetadata
    cases hmetadata
  · refine ⟨hsame, ?_⟩
    have hskipped : N.tokenGatewayAddress (underTimeout w (.post post) c routed).host.other post.dest ≠ address := hsame
    rw [if_neg hskipped] at hproxy
    obtain ⟨-, rfl⟩ := Prod.mk.inj hproxy
    have hnone : recordedFee (runtime T N) (underTimeout w (.post post) c routed).host
      (.request (.post post)) = none := by
      rw [recordedFee, hhash]
      show ((underTimeout w (.post post) c routed).host.requestCommitments c).map (·.fee) = none
      rw [hgone]
      rfl
    rw [hnone] at hback
    obtain rfl : w₂ = underTimeout w (.post post) c routed := hback
    rfl

/-- A teleport commits to a request with the sender as payer. Its timeout is refunded, where the transfer is
possible, exactly if the address of the gateway is the same and the sender is still recorded as its payer when
the callback is made. When the timeout handler makes the callback this is never so: either the timeout
fails, or nothing is transferred. -/
theorem teleport_refunded_iff (hdispatch : (dispatchTeleport T N account amount).run w₀ = (.ok c, w₁)) :
    hashRequest T.keccak256 (.post (teleported T N account amount w₀)) = some c ∧
    (w₁.host.requestCommitments c).map (·.fee) = some ⟨account.substrateAccount.bytes, 0⟩ ∧
    (∀ w, (∃ other, N.reserveTransfer account.substrateAccount.bytes amount w.host.other = .ok other) →
      (Refunds T N (teleported T N account amount w₀) w account.substrateAccount.bytes amount ↔
        N.tokenGatewayAddress w.host.other account.destStateMachine =
            N.tokenGatewayAddress w₀.host.other account.destStateMachine ∧
          (w.host.requestCommitments c).map (·.fee.payer) = some account.substrateAccount.bytes)) ∧
    ∀ w w' event,
      (dispatchRequestTimeout (runtime T N) (.post (teleported T N account amount w₀))).run w = (.ok (.ok event), w') ∨
        (dispatchGetTimeout (runtime T N) (.post (teleported T N account amount w₀))).run w = (.ok (.ok event), w') →
      N.tokenGatewayAddress w.host.other account.destStateMachine ≠
          N.tokenGatewayAddress w₀.host.other account.destStateMachine ∧
        w'.host.other = w.host.other := by
  obtain ⟨hhash, hrecorded⟩ := dispatchTeleport_ok hdispatch
  refine ⟨hhash, hrecorded, fun w hfunds => refunds_iff rfl rfl rfl hhash hfunds, fun w w' event h => ?_⟩
  have hrun : ∃ receipts, (timeOut (runtime T N) receipts (.request (.post (teleported T N account amount w₀)))).run w =
      (.ok (.ok event), w') := h.elim (fun h => ⟨true, h⟩) fun h => ⟨false, h⟩
  exact not_refunded_of_timedOut rfl rfl rfl (requestTimeout_ok hrun.choose_spec)

def sampleAccount : MultiAccount := ⟨BytesN.ofNat 32 0xa11ce, BytesN.ofNat 20 0xb0b, .evm 1, 10⟩

def teleportHeight : StateMachineHeight := ⟨⟨.evm 1, sampleConsensusId⟩, 1⟩

def teleportWorld : World SampleOther :=
  ⟨{ trackingHost teleportHeight ⟨50, none, BytesN.zero 32⟩ 12000000000 with
      other := ⟨⟨fun _ => 0, Inspector.noAssets⟩, []⟩ }, []⟩

def teleportedWorld : World SampleOther :=
  atTime 60000000000
    ((dispatchTeleport (sampleNexus (.evm 1)) samplePallets sampleAccount 5000000000).run teleportWorld).2

def sampleTeleport : PostRequest :=
  teleported (sampleNexus (.evm 1)) samplePallets sampleAccount 5000000000 teleportWorld

def sampleTeleportCommitment : H256 := sampleDigest ((Request.post sampleTeleport).encode.getD [])

theorem teleport_refunded_iff_sample :
    ∃ w₁, (dispatchTeleport (sampleNexus (.evm 1)) samplePallets sampleAccount 5000000000).run teleportWorld =
        (.ok sampleTeleportCommitment, w₁) ∧
      Refunds (sampleNexus (.evm 1)) samplePallets sampleTeleport w₁ sampleAccount.substrateAccount.bytes
        5000000000 := by
  have hcall : ((dispatchTeleport (sampleNexus (.evm 1)) samplePallets sampleAccount 5000000000).run teleportWorld).1 =
      .ok sampleTeleportCommitment := by decide +kernel
  obtain ⟨-, hrecorded, hrefunds, -⟩ := teleport_refunded_iff (run_of_fst_ok hcall)
  refine ⟨_, run_of_fst_ok hcall, (hrefunds _ ⟨_, rfl⟩).mpr ⟨rfl, ?_⟩⟩
  obtain ⟨metadata, hmetadata, hfee⟩ := Option.map_eq_some_iff.mp hrecorded
  rw [hmetadata, Option.map_some, hfee]

/-- In the timeout handler the same callback fails. The handler accepts the message, and nothing is sent. -/
theorem teleport_timeout_fails :
    ∃ w', (handleTimeout (runtime (sampleNexus (.evm 1)) samplePallets)
        (.post [.post sampleTeleport] ⟨teleportHeight, []⟩)).run teleportedWorld =
        (.ok (.timeout [.error (.moduleDispatchError "Token Gateway: Fee metadata could not be found for request"
          (.ofRequest (.post sampleTeleport)))]), w') ∧ w'.host.other.sent = [] := by
  have hcall : ((handleTimeout (runtime (sampleNexus (.evm 1)) samplePallets)
      (.post [.post sampleTeleport] ⟨teleportHeight, []⟩)).run teleportedWorld).1 =
      .ok (.timeout [.error (.moduleDispatchError "Token Gateway: Fee metadata could not be found for request"
        (.ofRequest (.post sampleTeleport)))]) := by decide +kernel
  exact ⟨_, run_of_fst_ok hcall, by decide +kernel⟩

theorem fromBytes_eq_evm {b : Bytes} {address : H160} : ModuleId.fromBytes b = .ok (.evm address) ↔
    b = address.bytes := by
  refine ⟨fun h => ?_, fun h => h ▸ fromBytes_address address⟩
  unfold ModuleId.fromBytes at h
  split at h
  · cases h
  · cases h
  · rename_i hbytes
    cases h
    exact (BytesN.ofBytes_eq_some.mp hbytes).symm
  · cases h

theorem exists_fromBytes {b : Bytes} :
    (∃ id, ModuleId.fromBytes b = .ok id) ↔ b.length = 8 ∨ b.length = 20 ∨ b.length = 32 := by
  unfold ModuleId.fromBytes BytesN.ofBytes
  by_cases h8 : b.length = 8
  · simp [h8]
  · by_cases h32 : b.length = 32
    · simp [h32]
    · by_cases h20 : b.length = 20 <;> simp [h8, h20, h32]

theorem sent_onTimeout (h : (onTimeout T N (.request (.post post))).run w = (.ok (), w')) :
    N.sent w'.host.other ≠ N.sent w.host.other := by
  obtain ⟨c, -, h⟩ := requestHash_bind_ok.mp h
  obtain ⟨metadata, -, h⟩ := reads_bind_ok.mp h
  obtain ⟨body, v, hdecode, h⟩ := bind_ok.mp h
  obtain ⟨amount, -, h⟩ := ofExcept_bind_ok.mp h
  obtain ⟨other, htransfer, rfl⟩ := transfer_ok.mp h
  have hsame : w = v := by
    unfold decodeBody at hdecode
    split at hdecode
    · cases hdecode
    · exact (ofExcept_ok.mp hdecode).2
  have hsent := N.sent_reserveTransfer _ _ _ _ htransfer
  rw [← hsame] at hsent
  intro heq
  have hlength := congrArg List.length (hsent.symm.trans heq)
  simp at hlength

/-- The timeout goes through, and nothing is transferred. -/
def PassedOn (T : Config Other) (N : Pallets Other) (post : PostRequest) (w : World Other) : Prop :=
  ∃ w', ((proxyModule T N).onTimeout (.request (.post post))).run w = (.ok (), w') ∧
    N.sent w'.host.other = N.sent w.host.other

/-- A request of another chain that the inspector lets pass. Its timeout goes through exactly if its sender has the
length of a module id and is not the gateway of the destination; a gateway that is not set is the zero address. -/
theorem routed_timeout_passed_iff {v : World Other} (hsent : ∀ s o, N.sent (N.inspector.set s o) = N.sent o)
    (hsource : post.source ≠ T.hostStateMachine)
    (hinspector : (zoom (others.comp N.inspector) (Inspector.handleTimeout post)).run w = (.ok (), v)) :
    PassedOn T N post w ↔ (post.fromModule.length = 8 ∨ post.fromModule.length = 20 ∨ post.fromModule.length = 32) ∧
        post.fromModule ≠ (N.tokenGatewayAddress v.host.other post.dest).bytes := by
  have hrun : ((proxyModule T N).onTimeout (.request (.post post))).run w =
      (timeoutHere T N (.request (.post post)) post.fromModule post.dest).run v := by
    show (uninspect T N post >>= fun _ => timeoutHere T N (.request (.post post)) post.fromModule post.dest).run w = _
    rw [uninspect, if_neg hsource, bind_run, hinspector]
  have hbefore : N.sent v.host.other = N.sent w.host.other := by
    obtain ⟨s, -, rfl⟩ := zoom_ok.mp hinspector
    exact hsent s _
  rw [PassedOn, hrun, timeoutHere, ← exists_fromBytes, ← hbefore]
  simp only [ofExcept_bind_ok, gets_bind_run]
  constructor
  · rintro ⟨w', ⟨id, hid, h⟩, hsame⟩
    refine ⟨⟨id, hid⟩, fun heq => ?_⟩
    rw [heq, fromBytes_address] at hid
    obtain rfl := Except.ok.inj hid
    rw [if_pos rfl] at h
    exact sent_onTimeout h hsame
  · rintro ⟨⟨id, hid⟩, hne⟩
    refine ⟨v, ⟨id, hid, ?_⟩, rfl⟩
    rw [if_neg fun heq => hne (fromBytes_eq_evm.mp (hid.trans (congrArg _ heq)))]
    rfl

def routedFrom (sender : Bytes) : PostRequest :=
  { sampleTeleport with source := .evm 1, dest := .evm 2, fromModule := sender }

theorem routed_timeout_passed_iff_sample :
    PassedOn (sampleNexus (.evm 1)) samplePallets (routedFrom (BytesN.ofNat 20 7).bytes) teleportWorld :=
  (routed_timeout_passed_iff (v := teleportWorld) (fun _ _ => rfl) StateMachine.noConfusion rfl).mpr
    ⟨.inr (.inl rfl), by decide +kernel⟩

/-- The inspector has nothing against the requests. A sender of three bytes has no module id. A sender of twenty zeros
is taken for the gateway of chain 2, which has none. -/
theorem routed_timeout_blocked :
    (zoom (others.comp samplePallets.inspector) (Inspector.handleTimeout (routedFrom [1, 2, 3]))).run teleportWorld =
        (.ok (), teleportWorld) ∧
      (((proxyModule (sampleNexus (.evm 1)) samplePallets).onTimeout (.request (.post (routedFrom [1, 2, 3])))).run
        teleportWorld).1 = .err (.custom "Unknown Module ID format") ∧
      (((proxyModule (sampleNexus (.evm 1)) samplePallets).onTimeout
        (.request (.post (routedFrom (BytesN.zero 20).bytes)))).run teleportWorld).1 =
        .err (.moduleDispatchError "Token Gateway: Fee metadata could not be found for request"
          (.ofRequest (.post (routedFrom (BytesN.zero 20).bytes)))) :=
  ⟨rfl, rfl, by decide +kernel⟩

end Hyperbridge.Nexus.XcmGateway

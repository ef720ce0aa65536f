import Hyperbridge.Relayer.Accumulate

/-!
# Who is paid

The source proof is meant to be of the chain where the fee was paid, and the dest proof of the chain where the message
arrived. `accumulate` has bare commitments, which do not name these chains, and takes the chains from the proofs
themselves: it credits the relayer that *some* chain names in a receipt. Nothing but the caller sees to it that the
proofs are of the right chains.
-/

namespace Hyperbridge.Relayer

open Lib Exec Ismp

variable {Other : Type} {T : Ismp.Config Other} {K : Config Other} {call : Call} {w w' : World Other}

/-- A message for which a fee was paid. -/
inductive Delivery where
  | request (request : Request)
  | response (response : PostResponse)

namespace Delivery

/-- The chain where the fee was paid. -/
def paidOn : Delivery → StateMachine
  | request r => r.sourceChain
  | response r => r.request.destChain

/-- The chain where the receipt is. -/
def deliveredOn : Delivery → StateMachine
  | request r => r.destChain
  | response r => r.request.sourceChain

/-- How the message is listed. -/
def key (keccak256 : Bytes → H256) : Delivery → Option Key
  | request r => .request <$> hashRequest keccak256 r
  | response r => do
      let requestCommitment ← hashRequest keccak256 r.request
      let responseCommitment ← hashPostResponse keccak256 r
      some (.response requestCommitment responseCommitment)

end Delivery

/-- The relayer that a chain names for it. -/
def recordedRelayer (T : Ismp.Config Other) (K : Config Other) (chain : StateMachine) (contents : Bytes → Option Bytes)
    (key : Key) : Option Bytes := do
  let receiptKey ← receiptKey T chain key
  let receipt ← contents receiptKey
  match key with
  | .request _ => (requestRelayer K chain receipt).toOption
  | .response _ responseCommitment =>
      if chain.isEvm then do
        let slot2 ← addOffSetToMapKey receiptKey 1
        let address ← contents slot2.bytes >>= K.decodeAddress
        if K.decodeB256 receipt = some responseCommitment then some address.bytes else none
      else do
        let receipt ← K.decodeReceipt receipt
        if receipt.response = responseCommitment then some receipt.relayer else none

/-- Verified proofs show what the chain has at that height. -/
def ProofsSound (T : Ismp.Config Other) (contents : StateMachine → UInt64 → Bytes → Option Bytes) (w : World Other) :
    Prop :=
  ∀ proof keys result, (verifyWithdrawalProof T proof keys).run w = (.ok result, w) → ∀ key value,
    valueAt result key = some value → contents proof.height.id.stateId proof.height.height key = some value

def ReceiptsInPlace (T : Ismp.Config Other) (K : Config Other) (contents : Bytes → Option Bytes) (message : Delivery) :
    Prop :=
  ∀ requestCommitment responseCommitment key relayer, message.key T.keccak256 = some key →
    key.account = .response responseCommitment →
    recordedRelayer T K message.deliveredOn contents (.response requestCommitment responseCommitment) = some relayer →
    key = .response requestCommitment responseCommitment

theorem responseRelayer_ok {dest : StateMachine} {destResult : List (Bytes × Option Bytes)} {destKey receipt : Bytes}
    {relayer : Bytes} {res : H256}
    (h : (responseRelayer K dest destResult destKey receipt).run w = (.ok (relayer, res), w')) :
    if dest.isEvm then ∃ slot2 encodedAddress address, addOffSetToMapKey destKey 1 = some slot2 ∧
      valueAt destResult slot2.bytes = some encodedAddress ∧ K.decodeAddress encodedAddress = some address ∧
      K.decodeB256 receipt = some res ∧ relayer = address.bytes
    else K.decodeReceipt receipt = some ⟨res, relayer⟩ := by
  unfold responseRelayer at h
  split at h
  · rename_i hevm
    rw [if_pos hevm]
    obtain ⟨responseCommitment, hres, h⟩ := ofExcept_bind_ok.mp h
    obtain ⟨slot2, hslot2, h⟩ := expect_bind_ok.mp h
    obtain ⟨encodedAddress, hvalue, h⟩ := ofExcept_bind_ok.mp h
    obtain ⟨address, haddress, h⟩ := ofExcept_bind_ok.mp h
    obtain ⟨hpair, -⟩ := Prod.mk.inj h
    obtain ⟨rfl, rfl⟩ := Prod.mk.inj (Outcome.ok.inj hpair)
    exact ⟨slot2, encodedAddress, address, hslot2, okOr_eq_ok.mp hvalue, okOr_eq_ok.mp haddress, okOr_eq_ok.mp hres,
      rfl⟩
  rename_i hevm
  rw [if_neg hevm]
  split at h
  · obtain ⟨⟨response, relayer'⟩, hreceipt, h⟩ := ofExcept_bind_ok.mp h
    obtain ⟨hpair, -⟩ := Prod.mk.inj h
    obtain ⟨rfl, rfl⟩ := Prod.mk.inj (Outcome.ok.inj hpair)
    exact okOr_eq_ok.mp hreceipt
  · cases h

theorem relayerOf_ok {dest : StateMachine} {destResult : List (Bytes × Option Bytes)} {key : Key} {destKey : Bytes}
    {relayer : Bytes} {contents : Bytes → Option Bytes}
    (hcontents : ∀ key value, valueAt destResult key = some value → contents key = some value)
    (hkey : receiptKey T dest key = some destKey)
    (h : (relayerOf K dest destResult key destKey).run w = (.ok relayer, w')) :
    recordedRelayer T K dest contents key = some relayer := by
  obtain ⟨receipt, hreceipt, h⟩ := ofExcept_bind_ok.mp h
  have hstored := hcontents destKey receipt (okOr_eq_ok.mp hreceipt)
  unfold recordedRelayer
  rw [hkey]
  simp only [Option.bind_eq_bind, Option.bind_some, hstored]
  cases key with
  | request c =>
    obtain ⟨hrelayer, -⟩ := ofExcept_ok.mp h
    simp only [hrelayer]
    rfl
  | response q c =>
    obtain ⟨⟨relayer', res⟩, w₁, hresponse, h⟩ := bind_ok.mp h
    obtain ⟨hsame, h⟩ := throwIf_bind_ok.mp h
    obtain ⟨rfl, -⟩ := pure_ok.mp h
    obtain rfl : c = res := by simpa using hsame
    have hread := responseRelayer_ok hresponse
    dsimp only
    by_cases hevm : dest.isEvm
    · rw [if_pos hevm] at hread ⊢
      obtain ⟨slot2, encodedAddress, address, hslot2, hvalue, haddress, hres, rfl⟩ := hread
      simp [hslot2, hcontents _ _ hvalue, haddress, hres]
    · rw [if_neg hevm] at hread ⊢
      simp [hread]

theorem credit_recorded {contents : StateMachine → UInt64 → Bytes → Option Bytes} (hsound : ProofsSound T contents w)
    (hcall : Accumulated T K call w w') {credit : Credit} (hcredit : credit ∈ call.credits) :
    recordedRelayer T K call.proof.dest (contents call.proof.dest call.proof.destProof.height.height) credit.key =
      some credit.address := by
  obtain ⟨v, credits, -, hverify, hturns, hcredits, -⟩ := hcall
  obtain ⟨-, -, hsourceKeys, hdestKeys, -, slots, hdest⟩ := verifyProofs_ok hverify
  rw [hcredits] at hcredit
  obtain ⟨sourceKey, destKey, hitem, hturn⟩ := exists_turn hturns hcredit
  obtain ⟨-, -, -, -, hrelayer⟩ := creditFor_ok hturn
  have hkey : receiptKey T call.proof.dest credit.key = some destKey := by
    rcases items_eq hsourceKeys hdestKeys with hnil | ⟨_, destKeyOf, -, hdestKey, hitems⟩
    · rw [hnil] at hitem
      cases hitem
    · rw [hitems] at hitem
      obtain ⟨key, -, heq⟩ := List.mem_map.mp hitem
      obtain ⟨hfirst, rfl⟩ := Prod.mk.inj heq
      obtain ⟨rfl, -⟩ := Prod.mk.inj hfirst
      exact hdestKey _
  exact relayerOf_ok (hsound _ _ _ hdest) hkey hrelayer

/-- A credit for a message goes to the relayer that delivered it, under proofs of the chain where its fee was paid and
of the chain where it arrived, exactly if the caller has given proofs of these two chains. -/
theorem paid_to_deliverer_iff {contents : StateMachine → UInt64 → Bytes → Option Bytes}
    (hsound : ProofsSound T contents w)
    (hcall : Accumulated T K call w w') {credit : Credit} (hcredit : credit ∈ call.credits)
    {message : Delivery} {key : Key}
    (hmessage : message.key T.keccak256 = some key) (haccount : credit.key.account = key.account)
    (hplace : ∀ height, ReceiptsInPlace T K (contents message.deliveredOn height) message) :
    (call.proof.source = message.paidOn ∧ call.proof.dest = message.deliveredOn ∧
      recordedRelayer T K message.deliveredOn (contents message.deliveredOn call.proof.destProof.height.height) key =
        some credit.address) ↔ call.proof.source = message.paidOn ∧ call.proof.dest = message.deliveredOn := by
  refine ⟨fun h => ⟨h.1, h.2.1⟩, fun ⟨hsource, hdest⟩ => ⟨hsource, hdest, ?_⟩⟩
  have hrecorded := credit_recorded hsound hcall hcredit
  rw [hdest] at hrecorded
  suffices hsame : key = credit.key by rw [hsame, hrecorded]
  obtain ⟨listed, address, fee⟩ := credit
  cases listed with
  | request c =>
    cases key with
    | request c' =>
      obtain rfl := MessageCommitment.request.inj haccount
      rfl
    | response q c' => cases haccount
  | response q c => exact hplace _ q c key address hmessage haccount.symm hrecorded

theorem lookup_map {f : Bytes → Option Bytes} {keys : List Bytes} {key value : Bytes}
    (h : valueAt (keys.map fun k => (k, f k)) key = some value) : f key = some value := by
  induction keys with
  | nil => cases h
  | cons k keys ih =>
    rw [valueAt, List.map_cons, List.lookup_cons] at h
    by_cases hk : key = k
    · subst hk
      simpa using h
    · rw [beq_false_of_ne hk] at h
      exact ih h

theorem proofsSound_sample : ProofsSound relayerConfig (fun chain _ => contents chain) relayerWorld := by
  intro proof keys result hverify key value hvalue
  simp only [verifyWithdrawalProof, mapErr_ok, reads_bind_ok] at hverify
  obtain ⟨sm, hsm, state, -, hresult⟩ := hverify
  obtain ⟨client, hclient, hmachine⟩ := validateStateMachine_ok hsm
  obtain rfl := List.mem_singleton.mp hclient
  obtain rfl := Except.ok.inj hmachine
  obtain ⟨rfl, -⟩ := pure_ok.mp hresult
  exact lookup_map hvalue

theorem receiptsInPlace_request (contents : Bytes → Option Bytes) (r : Request) :
    ReceiptsInPlace T K contents (.request r) := by
  intro q c key relayer hkey haccount
  obtain ⟨hash, -, rfl⟩ := Option.map_eq_some_iff.mp hkey
  cases haccount

theorem paid_to_deliverer_iff_sample :
    recordedRelayer relayerConfig sampleRelayer (.polkadot 2000) (contents (.polkadot 2000)) (.request paidCommitment) =
      some (asBytes "relayer") := by
  have hmessage : (Delivery.request (.post paidRequest)).key relayerConfig.keccak256 =
    some (.request paidCommitment) := by
    decide +kernel
  have hiff := paid_to_deliverer_iff proofsSound_sample accumulated_once (List.mem_singleton.mpr rfl) hmessage rfl
    fun height => receiptsInPlace_request _ _
  exact (hiff.mpr ⟨rfl, rfl⟩).2.2

def forgedVerified : Verified :=
  { verifiedOf 1 with
    destResult := [(requestReceiptStorageKey paidCommitment, some (scaleBytes (asBytes "operator")))] }

/-- The dest proof is of chain 666. -/
def forgedCall : Call where
  proof := proofOf [.request paidCommitment] (.polkadot 666)
  shown := shownFee relayerConfig sampleRelayer (.evm 1) forgedVerified.sourceResult
  credits := [⟨.request paidCommitment, asBytes "operator", 5⟩]

theorem accumulated_forged : Accumulated relayerConfig sampleRelayer forgedCall relayerWorld
    ((accumulate relayerConfig sampleRelayer forgedCall.proof).run relayerWorld).2 := by
  have hverify : ((verifyProofs relayerConfig forgedCall.proof).run relayerWorld).1 = .ok forgedVerified := by
    decide +kernel
  have hturn : ((creditFor sampleRelayer forgedCall.proof forgedVerified turnOf).run relayerWorld).1 =
      .ok (some ⟨.request paidCommitment, asBytes "operator", 5⟩) := by decide +kernel
  have hcall : ((accumulate relayerConfig sampleRelayer forgedCall.proof).run relayerWorld).1 =
      .ok [⟨asBytes "operator", .evm 1, 5⟩] := by decide +kernel
  have hitems : forgedVerified.items = List.replicate 1 turnOf := items_verifiedOf 1
  exact accumulated_of_run hverify hitems (.cons hturn .nil) rfl rfl hcall

/-- The operator of chain 666 takes the fee of a request from chain 1 to chain 2000. -/
theorem operator_paid :
    ∃ call w, Accumulated relayerConfig sampleRelayer call relayerWorld w ∧
      ProofsSound relayerConfig (fun chain _ => contents chain) relayerWorld ∧
      call.credits = [⟨.request paidCommitment, asBytes "operator", 5⟩] ∧
      (Delivery.request (.post paidRequest)).key relayerConfig.keccak256 = some (.request paidCommitment) ∧
      call.proof.dest ≠ (Delivery.request (.post paidRequest)).deliveredOn ∧
      recordedRelayer relayerConfig sampleRelayer (.polkadot 2000) (contents (.polkadot 2000))
        (.request paidCommitment) =
        some (asBytes "relayer") ∧
      (feesOf sampleRelayer w (.evm 1) (asBytes "operator")).toNat = 5 :=
  ⟨forgedCall, _, accumulated_forged, proofsSound_sample, rfl, by decide +kernel, by decide +kernel, by decide +kernel,
    by decide +kernel⟩

end Hyperbridge.Relayer

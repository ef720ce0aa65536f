import Hyperbridge.HostExecutive.Pallet
import Hyperbridge.Ismp.Commitments
import Hyperbridge.Ismp.Substrate

/-!
# Payments for messages to Hyperbridge

Through `HyperbridgeClientMachine` Hyperbridge accepts a message of a Substrate chain if its child trie has the
commitment, and a payment that covers the message. pallet-hyperbridge charges for the body of a request and for the data
of a response. The client asks for the body of a request too, but for the whole encoding of a response, of which the
data is only a part.
-/

namespace Hyperbridge.PalletHyperbridge

open Lib Exec Ismp
open Ismp.Substrate (Libraries SubstrateStateProof decodeStateProof lookup requestCommitmentStorageKey
  responseCommitmentStorageKey)
open HostExecutive (HostParam)

def requestPaymentStorageKey (c : H256) : Bytes := asBytes "RequestPayment" ++ c.bytes

def responsePaymentStorageKey (c : H256) : Bytes := asBytes "ResponsePayment" ++ c.bytes

structure ClientMachine where
  stateMachine : StateMachine
  hostParams : StateMachine → Option HostParam
  keccak256 : Bytes → H256
  decodeErrorText : Bytes → String

structure Item where
  commitmentKey : Bytes
  paymentKey : Bytes
  size : Nat
  dest : Option StateMachine

variable (L : Libraries) (M : ClientMachine)

def bodyOf : Request → Bytes
  | .post post => post.body
  | .get _ => []

def destOf : Request → Option StateMachine
  | .post post => some post.dest
  | .get _ => none

/-- The body is paid for. -/
def requestItem (r : Request) : Option Item := do
  let commitment ← hashRequest M.keccak256 r
  some ⟨requestCommitmentStorageKey commitment, requestPaymentStorageKey commitment, (bodyOf r).length, destOf r⟩

/-- The whole encoding is paid for. -/
def responseItem (r : Response) : Option Item := do
  let commitment ← hashResponse M.keccak256 r
  let encoded ← r.encode
  some ⟨responseCommitmentStorageKey commitment, responsePaymentStorageKey commitment, encoded.length, some r.destChain⟩

def items : RequestResponse → List Item
  | .request requests => requests.filterMap (requestItem M)
  | .response responses => responses.filterMap (responseItem M)

def displayText (s : StateMachine) : String :=
  (s.toText.bind fun b => String.fromUTF8? ⟨b.toArray⟩).getD ""

def substrateParams : Except Error SubstrateHostParams :=
  match M.hostParams M.stateMachine with
  | some (.substrateHostParam params) => .ok params
  | _ => .error (.custom ("State machine host params not found for " ++ displayText M.stateMachine))

/-- The least that is asked for is 32 bytes. -/
def cost (perByteFee : BitVec 128) (size : Nat) : BitVec 128 :=
  if 32 > size then 32 * perByteFee else BitVec.ofNat 128 size * perByteFee

/-- The payment that is recorded, as the client reads it. -/
def readPayment (stateProof : SubstrateStateProof) (root : H256) (key : Bytes) : Except Error (BitVec 128) := do
  match ← lookup L stateProof root key with
  | none => .error (.custom ("Request payment not present in path: " ++ debugBytes key))
  | some value =>
      okOr (Codec.u128.read value) (.custom ("Failed to decode payment receipt: " ++ M.decodeErrorText value))

/-- The payment covers the cost. -/
def checkPayment (params : SubstrateHostParams) (stateProof : SubstrateStateProof) (root : H256) (item : Item)
    (dest : StateMachine) : Except Error Unit :=
  let perByteFee := params.perByteFee dest
  if 0 < perByteFee then do
    let paid ← readPayment L M stateProof root item.paymentKey
    errIf (paid < cost perByteFee item.size) (.custom ("Insufficient payment for request. Expected: "
      ++ toString (cost perByteFee item.size).toNat ++ ", got: " ++ toString paid.toNat))
  else .ok ()

def missingText : Substrate.HashAlgorithm → String
  | .keccak => "Request commitment not present in path: "
  | .blake2 => "Response commitment not present in path: "

/-- The commitment is there, and paid for. -/
def checkItem (params : SubstrateHostParams) (stateProof : SubstrateStateProof) (root : H256) (item : Item) :
    Except Error Unit := do
  let value ← lookup L stateProof root item.commitmentKey
  let _ ← okOr value (.custom (missingText stateProof.hasher ++ debugBytes item.commitmentKey))
  match item.dest with
  | none => .ok ()
  | some dest => checkPayment L M params stateProof root item dest

def verifyMembership (messages : RequestResponse) (state : StateCommitment) (proof : Proof) : Except Error Unit := do
  let stateProof ← decodeStateProof L proof
  errIf (stateProof.isOverlay = false) (.custom "Expected Overlay Proof")
  let root ← okOr state.overlayRoot (.custom "Child trie root is not available for provided state commitment")
  let params ← substrateParams M
  (items M messages).forM (checkItem L M params stateProof root)

variable {L M} {Other : Type} {T : Config Other} {K : Runtime Other} {params : SubstrateHostParams} {w w' : World Other}
  {c root : H256} {fee : FeeMetadata} {stateProof : SubstrateStateProof} {state : StateCommitment} {proof : Proof}

theorem verifyMembership_ok_iff (hproof : L.decodeProof proof.proof = .ok stateProof)
    (hoverlay : stateProof.isOverlay = true) (hroot : state.overlayRoot = some root)
    (hparams : M.hostParams M.stateMachine = some (.substrateHostParam params)) (messages : RequestResponse) :
    verifyMembership L M messages state proof = .ok () ↔
      ∀ item ∈ items M messages, checkItem L M params stateProof root item = .ok () := by
  have hdecode : decodeStateProof L proof = .ok stateProof := by rw [decodeStateProof, hproof]
  have hfound : substrateParams M = .ok params := by rw [substrateParams, hparams]
  have hvariant : errIf (stateProof.isOverlay = false) (Error.custom "Expected Overlay Proof") = .ok () :=
    errIf_ok.mpr (by simp [hoverlay])
  rw [← except_forM_ok, verifyMembership, hdecode, hroot, hfound]
  dsimp only [Bind.bind, Except.bind, okOr]
  rw [hvariant]

/-- Both sides compute the same fee. -/
theorem cost_eq_protocolFee (params : SubstrateHostParams) (dest : StateMachine) (size : Nat) :
    cost (params.perByteFee dest) size = protocolFee params dest size := by
  rw [cost, protocolFee]
  by_cases hsize : size < 32
  · rw [if_pos hsize, if_pos hsize, BitVec.mul_comm]
  · rw [if_neg hsize, if_neg hsize, BitVec.mul_comm]

theorem toNat_protocolFee (dest : StateMachine) (length : Nat) :
    (protocolFee params dest length).toNat = (params.perByteFee dest).toNat * max 32 length % 2 ^ 128 := by
  rw [protocolFee]
  split
  · rw [BitVec.toNat_mul, Nat.max_eq_left (by omega)]
    rfl
  · rw [BitVec.toNat_mul, BitVec.toNat_ofNat, Nat.mul_mod_mod, Nat.max_eq_right (by omega)]

/-- Without overflow more bytes cost more. -/
theorem protocolFee_lt {dest : StateMachine} {short long : Nat} (hlong : 32 < long) (hlt : short < long)
    (hfee : params.perByteFee dest ≠ 0) (hfits : (params.perByteFee dest).toNat * long < 2 ^ 128) :
    protocolFee params dest short < protocolFee params dest long := by
  have hpos : 0 < (params.perByteFee dest).toNat := by
    rw [Nat.pos_iff_ne_zero]
    intro h
    exact hfee (BitVec.toNat_inj.mp h)
  have hvalue {size : Nat} (hsize : max 32 size ≤ long) :
      (protocolFee params dest size).toNat = (params.perByteFee dest).toNat * max 32 size := by
    rw [toNat_protocolFee]
    exact Nat.mod_eq_of_lt (Nat.lt_of_le_of_lt (Nat.mul_le_mul_left _ hsize) hfits)
  rw [BitVec.lt_def, hvalue (by omega), hvalue (by omega)]
  exact Nat.mul_lt_mul_of_pos_left (by omega) hpos

theorem five_le_length_toText {s : StateMachine} {t : Bytes} (h : s.toText = some t) : 5 ≤ t.length := by
  obtain ⟨-, rfl⟩ := StateMachine.toText_eq_some.mp h
  have hdecimal (n : Nat) : 1 ≤ (decimal n).length := List.length_pos_iff.mpr (decimal_ne_nil n)
  rw [List.length_append]
  cases s with
  | evm id => exact Nat.add_le_add (show 4 ≤ 4 from Nat.le_refl 4) (hdecimal _)
  | polkadot id => exact Nat.add_le_add (show 4 ≤ 9 by omega) (hdecimal _)
  | kusama id => exact Nat.add_le_add (show 4 ≤ 7 by omega) (hdecimal _)
  | substrate id => exact Nat.le_add_right_of_le (show 5 ≤ 10 by omega)
  | tendermint id => exact Nat.le_add_right_of_le (show 5 ≤ 9 by omega)

/-- The response is a part of its encoding. -/
theorem length_encode_response {r : PostResponse} {encoded : Bytes} (h : r.encode = some encoded) :
    34 + r.response.length ≤ encoded.length := by
  obtain ⟨request, hrequest, h⟩ := Option.bind_eq_some_iff.mp h
  obtain ⟨source, hsource, hrequest⟩ := Option.bind_eq_some_iff.mp hrequest
  obtain ⟨dest, hdest, hrequest⟩ := Option.bind_eq_some_iff.mp hrequest
  have hsourceLength := five_le_length_toText hsource
  have hdestLength := five_le_length_toText hdest
  rw [← Option.some.inj h, ← Option.some.inj hrequest]
  simp only [List.length_append, length_beBytes]
  omega

theorem charge_ok {payer target : Bytes} {amount : Nat} (h : (charge T payer target amount).run w = (.ok (), w')) :
    ∃ o, w' = others.set o w := by
  rcases charge_cases (T := T) payer target amount w with ⟨-, e, hrun⟩ | ⟨o, -, -, hrun⟩
  · rw [hrun] at h
    cases h
  · rw [hrun] at h
    exact ⟨o, (Prod.mk.inj h).2.symm⟩

theorem payAndDispatch_ok {fees : BitVec 128} {inner : Pallet Other H256} {record : H256 → Storage → Storage}
    (h : (payAndDispatch T K fee fees inner record).run w = (.ok c, w')) :
    ∃ o w₁, inner.run (others.set o w) = (.ok c, w₁) ∧ w'.host.requestCommitments = w₁.host.requestCommitments ∧
      w'.host.responseCommitments = w₁.host.responseCommitments ∧
      K.storage.get w'.host.other = record c (K.storage.get w₁.host.other) := by
  obtain ⟨_, w₀, hcharge, h⟩ := bind_ok.mp h
  obtain ⟨o, rfl⟩ := charge_ok hcharge
  obtain ⟨c', w₁, hinner, h⟩ := bind_ok.mp h
  obtain ⟨rfl, rfl⟩ := pure_ok.mp h
  exact ⟨o, w₁, hinner, rfl, rfl, K.storage.get_set _ _⟩

/-- What was charged is recorded. -/
theorem dispatchRequest_recorded {request : DispatchRequest}
    (h : ((palletHyperbridge T K (palletIsmp T)).dispatchRequest request fee).run w = (.ok c, w')) :
    hashRequest T.keccak256 (stamped T w request) = some c ∧ w'.host.requestCommitments c ≠ none ∧
      (K.storage.get w'.host.other).requestPayments c =
        some (requestFees (K.storage.get w.host.other).hostParams request) := by
  obtain ⟨o, w₁, hinner, hcommitments, -, hstorage⟩ := payAndDispatch_ok h
  obtain ⟨other, -, hhash, -, rfl⟩ := dispatchRequest_ok hinner
  have hsame : stamped T (others.set o w) request = stamped T w request := by cases request <;> rfl
  rw [hsame] at hhash
  refine ⟨hhash, ?_, ?_⟩
  · rw [hcommitments]
    simp [withCommitment]
  · rw [hstorage]
    exact Function.update_self ..

theorem dispatchResponse_recorded {response : PostResponse}
    (h : ((palletHyperbridge T K (palletIsmp T)).dispatchResponse response fee).run w = (.ok c, w')) :
    hashResponse T.keccak256 (.post response) = some c ∧ w'.host.responseCommitments c ≠ none ∧
      (K.storage.get w'.host.other).responsePayments c =
        some (responseFees (K.storage.get w.host.other).hostParams response) := by
  obtain ⟨o, w₁, hinner, -, hcommitments, hstorage⟩ := payAndDispatch_ok h
  obtain ⟨other, mmr, reqCommitment, -, hhash, rfl⟩ := dispatchPostResponse_ok hinner
  refine ⟨hhash, ?_, ?_⟩
  · rw [hcommitments]
    simp
  · rw [hstorage]
    exact Function.update_self ..

structure Shows (get : Bytes → Except Error (Option Bytes)) (K : Runtime Other) (w : World Other)
    (c : H256) : Prop where
  requestCommitment : w.host.requestCommitments c ≠ none → ∃ v, get (requestCommitmentStorageKey c) = .ok (some v)
  responseCommitment : w.host.responseCommitments c ≠ none → ∃ v, get (responseCommitmentStorageKey c) = .ok (some v)
  requestPayment : ∀ paid, (K.storage.get w.host.other).requestPayments c = some paid →
    get (requestPaymentStorageKey c) = .ok (some (Codec.u128.encode paid))
  responsePayment : ∀ paid, (K.storage.get w.host.other).responsePayments c = some paid →
    get (responsePaymentStorageKey c) = .ok (some (Codec.u128.encode paid))

theorem checkItem_ok_iff {item : Item} {dest : StateMachine} {paid : BitVec 128} (hdest : item.dest = some dest)
    (hcommitment : ∃ v, lookup L stateProof root item.commitmentKey = .ok (some v))
    (hpayment : lookup L stateProof root item.paymentKey = .ok (some (Codec.u128.encode paid))) :
    checkItem L M params stateProof root item = .ok () ↔
      params.perByteFee dest = 0 ∨ protocolFee params dest item.size ≤ paid := by
  obtain ⟨v, hv⟩ := hcommitment
  have hread : readPayment L M stateProof root item.paymentKey = .ok paid := by
    rw [readPayment, hpayment]
    dsimp only [Bind.bind, Except.bind]
    rw [Codec.read_encode]
    rfl
  have hitem : checkItem L M params stateProof root item = checkPayment L M params stateProof root item dest := by
    rw [checkItem, hv, hdest]
    rfl
  rw [hitem, checkPayment, cost_eq_protocolFee, hread]
  by_cases hzero : params.perByteFee dest = 0
  · have hnot : ¬ 0 < params.perByteFee dest := by simp [hzero]
    rw [if_neg hnot]
    exact iff_of_true rfl (.inl hzero)
  · have hpos : 0 < params.perByteFee dest := by
      rw [BitVec.lt_def]
      exact Nat.pos_of_ne_zero fun h => hzero (BitVec.toNat_inj.mp h)
    rw [if_pos hpos, or_iff_right hzero]
    show errIf _ _ = .ok () ↔ _
    rw [errIf_ok, BitVec.not_lt]

theorem dispatchedRequest_passes {request : DispatchRequest} (hchain : (K.storage.get w.host.other).hostParams = params)
    (hhash : M.keccak256 = T.keccak256) (hshows : Shows (lookup L stateProof root) K w' c)
    (h : ((palletHyperbridge T K (palletIsmp T)).dispatchRequest request fee).run w = (.ok c, w')) :
    ∃ item, requestItem M (stamped T w request) = some item ∧ checkItem L M params stateProof root item = .ok () := by
  obtain ⟨hcommitment, hcommitted, hpayment⟩ := dispatchRequest_recorded h
  rw [hchain] at hpayment
  refine ⟨⟨requestCommitmentStorageKey c, requestPaymentStorageKey c, (bodyOf (stamped T w request)).length,
    destOf (stamped T w request)⟩, ?_, ?_⟩
  · rw [requestItem, hhash, hcommitment]
    rfl
  · cases request with
    | get get =>
      obtain ⟨v, hv⟩ := hshows.requestCommitment hcommitted
      rw [checkItem, hv]
      rfl
    | post post =>
      refine (checkItem_ok_iff rfl (hshows.requestCommitment hcommitted) (hshows.requestPayment _ hpayment)).mpr ?_
      exact .inr (BitVec.le_refl _)

theorem dispatchedResponse_passes_iff {response : PostResponse}
    (hchain : (K.storage.get w.host.other).hostParams = params) (hhash : M.keccak256 = T.keccak256)
    (hshows : Shows (lookup L stateProof root) K w' c)
    (h : ((palletHyperbridge T K (palletIsmp T)).dispatchResponse response fee).run w = (.ok c, w')) :
    ∃ encoded item, response.encode = some encoded ∧ responseItem M (.post response) = some item ∧
      (checkItem L M params stateProof root item = .ok () ↔ params.perByteFee response.destChain = 0 ∨
        protocolFee params response.destChain encoded.length ≤ responseFees params response) := by
  obtain ⟨hcommitment, hcommitted, hpayment⟩ := dispatchResponse_recorded h
  rw [hchain] at hpayment
  obtain ⟨encoded, hencoded, -⟩ := Option.map_eq_some_iff.mp hcommitment
  have hencoded : response.encode = some encoded := hencoded
  refine ⟨encoded, ⟨responseCommitmentStorageKey c, responsePaymentStorageKey c, encoded.length,
    some response.destChain⟩, hencoded, ?_, ?_⟩
  · rw [responseItem, hhash, hcommitment]
    show (response.encode.bind _) = _
    rw [hencoded]
    rfl
  · exact checkItem_ok_iff rfl (hshows.responseCommitment hcommitted) (hshows.responsePayment _ hpayment)

theorem response_covered_iff {response : PostResponse} {encoded : Bytes} (hencoded : response.encode = some encoded)
    (hfits : (params.perByteFee response.destChain).toNat * encoded.length < 2 ^ 128) :
    (params.perByteFee response.destChain = 0 ∨
      protocolFee params response.destChain encoded.length ≤ responseFees params response) ↔
        params.perByteFee response.destChain = 0 := by
  rw [or_iff_left_iff_imp]
  intro hle
  by_contra hfee
  have hlength := length_encode_response hencoded
  have hlt : responseFees params response < protocolFee params response.destChain encoded.length :=
    protocolFee_lt (by omega) (by omega) hfee hfits
  exact absurd hle (BitVec.not_le.mpr hlt)

/-- Under the same parameters a request that was dispatched always passes. A response passes exactly if nothing is
charged or the fee for its whole encoding wraps to no more than was paid; without overflow, only if nothing is charged.
-/
theorem paid_messages_accepted_iff {p : Substrate.StateMachineProof}
    (hchain : (K.storage.get w.host.other).hostParams = params)
    (hhost : M.hostParams M.stateMachine = some (.substrateHostParam params)) (hhash : M.keccak256 = T.keccak256)
    (hproof : L.decodeProof proof.proof = .ok (.overlayProof p)) (hroot : state.overlayRoot = some root)
    (hshows : Shows (lookup L (.overlayProof p) root) K w' c) :
    (∀ request fee, ((palletHyperbridge T K (palletIsmp T)).dispatchRequest request fee).run w = (.ok c, w') →
      verifyMembership L M (.request [stamped T w request]) state proof = .ok ()) ∧
    ∀ response fee, ((palletHyperbridge T K (palletIsmp T)).dispatchResponse response fee).run w = (.ok c, w') →
      ∃ encoded, response.encode = some encoded ∧
        (verifyMembership L M (.response [.post response]) state proof = .ok () ↔
          params.perByteFee response.destChain = 0 ∨
            (params.perByteFee response.destChain).toNat * encoded.length % 2 ^ 128 ≤
              (params.perByteFee response.destChain).toNat * max 32 response.response.length % 2 ^ 128) ∧
        ((params.perByteFee response.destChain).toNat * encoded.length < 2 ^ 128 →
          (verifyMembership L M (.response [.post response]) state proof = .ok () ↔
            params.perByteFee response.destChain = 0)) := by
  constructor
  · intro request fee h
    obtain ⟨item, hitem, hpasses⟩ := dispatchedRequest_passes hchain hhash hshows h
    rw [verifyMembership_ok_iff hproof rfl hroot hhost, items, List.filterMap_cons_some hitem, List.filterMap_nil,
      List.forall_mem_singleton]
    exact hpasses
  · intro response fee h
    obtain ⟨encoded, item, hencoded, hitem, hpasses⟩ := dispatchedResponse_passes_iff hchain hhash hshows h
    rw [verifyMembership_ok_iff hproof rfl hroot hhost, items, List.filterMap_cons_some hitem, List.filterMap_nil,
      List.forall_mem_singleton]
    refine ⟨encoded, hencoded, ?_, fun hfits => hpasses.trans (response_covered_iff hencoded hfits)⟩
    have hlength := length_encode_response hencoded
    rw [hpasses, BitVec.le_def, responseFees, toNat_protocolFee, toNat_protocolFee, Nat.max_eq_right (by omega)]

def receivedWorld : World Pallets :=
  ⟨{ sampleWorld.host with requestReceipts := fun _ => some [] }, []⟩

/-- The response is dispatched. -/
def answered : Outcome Error H256 × World Pallets :=
  ((palletHyperbridge sampleConfig samplePallet (palletIsmp sampleConfig)).dispatchResponse sampleResponse
    ⟨samplePayer, 0⟩).run receivedWorld

def answerCommitment : H256 := ((hashResponse sampleDigest (.post sampleResponse))).getD (BytesN.zero 32)

/-- The child trie of the chain. -/
def answeredTrie (_ : H256) (key : Bytes) : Option Bytes :=
  if key = responseCommitmentStorageKey answerCommitment then some [0]
  else if key = responsePaymentStorageKey answerCommitment then
    ((samplePallet.storage.get answered.2.host.other).responsePayments answerCommitment).map Codec.u128.encode
  else none

def answeredLibraries : Libraries := Substrate.oneNodeLibraries answeredTrie

def answeredState : StateCommitment := ⟨30, some (BytesN.ofNat 32 1), BytesN.ofNat 32 2⟩

def answeredProof : Proof := ⟨sampleHeight, [0, 1, 4, 4, 1]⟩

def sampleMachine : ClientMachine where
  stateMachine := .polkadot 3367
  hostParams _ := some (.substrateHostParam sampleWorld.host.other.storage.hostParams)
  keccak256 := sampleDigest
  decodeErrorText _ := ""

theorem shows_answered :
    Shows (lookup answeredLibraries (.overlayProof ⟨.blake2, [[1]]⟩) (BytesN.ofNat 32 1)) samplePallet answered.2
      answerCommitment where
  requestCommitment h := absurd rfl h
  responseCommitment _ := ⟨[0], by decide +kernel⟩
  requestPayment paid h := by cases h
  responsePayment paid h := by
    have hne : responsePaymentStorageKey answerCommitment ≠ responseCommitmentStorageKey answerCommitment := by
      decide +kernel
    show Except.ok (answeredTrie _ (responsePaymentStorageKey answerCommitment)) = _
    rw [answeredTrie, if_neg hne, if_pos rfl, h]
    rfl

theorem paid_messages_accepted_iff_sample :
    verifyMembership answeredLibraries sampleMachine (.response [.post sampleResponse]) answeredState answeredProof ≠
      .ok () := by
  have hrun : answered = (.ok answerCommitment, answered.2) := Prod.ext (by decide +kernel) rfl
  have hproof : answeredLibraries.decodeProof answeredProof.proof = .ok (.overlayProof ⟨.blake2, [[1]]⟩) := rfl
  have hroot : answeredState.overlayRoot = some (BytesN.ofNat 32 1) := rfl
  have hhost : sampleMachine.hostParams sampleMachine.stateMachine =
      some (.substrateHostParam (samplePallet.storage.get receivedWorld.host.other).hostParams) := rfl
  have hhash : sampleMachine.keccak256 = sampleConfig.keccak256 := rfl
  obtain ⟨encoded, hencoded, -, hiff⟩ := (paid_messages_accepted_iff rfl hhost hhash hproof hroot shows_answered).2
    sampleResponse ⟨samplePayer, 0⟩ hrun
  have hlength : some encoded.length = some 54 := by
    rw [← Option.map_some, ← hencoded]
    decide +kernel
  rw [Option.some.inj hlength] at hiff
  rw [ne_eq, hiff (by decide +kernel)]
  decide +kernel

/-- The chain charges 32 units for the byte, and Hyperbridge asks for 54. -/
theorem paid_response_refused :
    answered.1 = .ok answerCommitment ∧
    (samplePallet.storage.get answered.2.host.other).responsePayments answerCommitment = some 32 ∧
    verifyMembership answeredLibraries sampleMachine (.response [.post sampleResponse]) answeredState answeredProof =
      .error (.custom "Insufficient payment for request. Expected: 54, got: 32") := by
  refine ⟨by decide +kernel, by decide +kernel, ?_⟩
  decide +kernel

end Hyperbridge.PalletHyperbridge

import Hyperbridge.Evm.Delivery
import Hyperbridge.Ismp.Substrate

/-!
# Receipts of responses: one writer, two readers

When a response is delivered, pallet-ismp stores its receipt in the child trie under the commitment of the
*request*. Whether a response was delivered is looked up in two other places, by `SubstrateStateMachine` and
by `HandlerV1`, both under the commitment of the *response*. Here the three keys are put side by side.
-/

namespace Hyperbridge.Ismp

open Lib Exec

/-- What the child trie holds under a key. -/
def childReceipt {Other : Type} (h : Host Other) (key : Bytes) : Option ResponseReceipt :=
  let c := key.drop (asBytes "ResponseReceipts").length
  if hlen : c.length = 32 then
    if key = responseReceiptStorageKey ⟨c, hlen⟩ then h.responseReceipts ⟨c, hlen⟩ else none
  else none

variable {Other : Type} {T : Config Other} {L : Evm.Libraries}

@[simp] theorem childReceipt_storageKey (h : Host Other) (c : H256) :
    childReceipt h (responseReceiptStorageKey c) = h.responseReceipts c := by
  have hdrop : (responseReceiptStorageKey c).drop (asBytes "ResponseReceipts").length = c.bytes := by
    rw [responseReceiptStorageKey, List.drop_left]
  have hlen : c.bytes.length = 32 := BytesN.length_bytes c
  simp only [childReceipt, hdrop, hlen, dif_pos]
  exact if_pos rfl

theorem responseReceiptStorageKey_inj {c c' : H256} :
    responseReceiptStorageKey c = responseReceiptStorageKey c' ↔ c = c' := by
  refine ⟨fun h => BytesN.bytes_injective ?_, fun h => by rw [h]⟩
  exact List.append_cancel_left h

/-- The key the pallet writes. -/
def writtenKey (T : Config Other) (r : PostResponse) : Option Bytes :=
  (hashRequest T.keccak256 r.request).map responseReceiptStorageKey

/-- The key `HandlerV1` asks for. -/
def handlerKey (L : Evm.Libraries) (r : Evm.PostResponse) : Bytes :=
  Evm.responseReceiptsStorage ++ (L.hashPostResponse r).bytes

/-- The response as the contracts have it. -/
def PostResponse.toSolidity (r : PostResponse) : Option Evm.PostResponse := do
  let source ← r.post.source.toText
  let dest ← r.post.dest.toText
  some
    { request :=
        { source := source, dest := dest, nonce := r.post.nonce, fromModule := r.post.fromModule
          toModule := r.post.toModule, timeoutTimestamp := r.post.timeoutTimestamp, body := r.post.body }
      response := r.response
      timeoutTimestamp := r.timeoutTimestamp }

theorem childReceipt_store {r : PostResponse} {signer : Bytes} {w w' : World Other}
    (h : (storeResponseReceipt T (.post r) signer).run w = (.ok (), w')) :
    ∃ key c, writtenKey T r = some key ∧ hashPostResponse T.keccak256 r = some c ∧
      childReceipt w'.host key = some ⟨c, signer⟩ := by
  rw [storeResponseReceipt, requestHash_bind_ok] at h
  obtain ⟨hash, hhash, h⟩ := h
  rw [responseHash_bind_ok] at h
  obtain ⟨c, hc, h⟩ := h
  obtain ⟨-, rfl⟩ := Prod.mk.inj h
  refine ⟨responseReceiptStorageKey hash, c, congrArg (Option.map _) hhash, hc, ?_⟩
  rw [childReceipt_storageKey]
  exact Function.update_self _ _ _

theorem handlerKey_absent {state : Beefy.StateCommitment} {proof : List Bytes} {i : Nat} {r : Evm.PostResponse}
    {h : Evm.Host} {metadata : Evm.FeeMetadata}
    (hcheck : Evm.checkTimeout L state proof i r.timeoutTimestamp Evm.responseReceiptsStorage
      (L.hashPostResponse r) (·.responseCommitments) h = .ok metadata) :
    ∃ entry rest, L.verifySubstrateProof state.stateRoot proof [handlerKey L r] = .ok (entry :: rest) ∧
      entry.value = [] :=
  Evm.verifyAbsent_ok (Evm.checkTimeout_ok hcheck)

theorem handlerKey_eq {r : Evm.PostResponse} : handlerKey L r = responseReceiptStorageKey (L.hashPostResponse r) := by
  have hstorage : Evm.responseReceiptsStorage = asBytes "ResponseReceipts" := by decide
  rw [handlerKey, responseReceiptStorageKey, hstorage]

theorem encode_request_ne {r : PostResponse} {x y : Bytes} (hx : r.request.encode = some x)
    (hy : r.encode = some y) : x ≠ y := by
  rw [PostResponse.encode, hx] at hy
  have hlen := congrArg List.length (Option.some.inj hy)
  simp only [List.length_append, length_beBytes] at hlen
  rintro rfl
  omega

/-- The host stores the receipt under the one key, and the handler asks for its absence under the other. The readers
agree with each other. They agree with the writer exactly if the hash maps the encodings of request and response, two
different strings, to one value; and only then does a receipt in the child trie keep the response from being shown
undelivered. -/
theorem response_receipt_keys_agree_iff {r : PostResponse} {er : Evm.PostResponse} {x y : Bytes} (w₀ : World Other)
    (hx : r.request.encode = some x) (hy : r.encode = some y) (her : r.toSolidity = some er)
    (hhash : ∀ r er y, PostResponse.toSolidity r = some er → r.encode = some y →
      L.hashPostResponse er = T.keccak256 y) :
    ((∀ signer w w', (storeResponseReceipt T (.post r) signer).run w = (.ok (), w') →
        ∃ key c, writtenKey T r = some key ∧ hashPostResponse T.keccak256 r = some c ∧
          childReceipt w'.host key = some ⟨c, signer⟩) ∧
      ∀ state proof i h metadata, Evm.checkTimeout L state proof i er.timeoutTimestamp Evm.responseReceiptsStorage
          (L.hashPostResponse er) (·.responseCommitments) h = .ok metadata →
        ∃ entry rest, L.verifySubstrateProof state.stateRoot proof [handlerKey L er] = .ok (entry :: rest) ∧
          entry.value = []) ∧
      x ≠ y ∧ receiptsStateTrieKey T.keccak256 (.response [.post r]) = [handlerKey L er] ∧
      (writtenKey T r = some (handlerKey L er) ↔ T.keccak256 x = T.keccak256 y) ∧
      ((∀ h : Host Other, ∀ key, writtenKey T r = some key → (childReceipt h key).isSome →
          (childReceipt h (handlerKey L er)).isSome) ↔ T.keccak256 x = T.keccak256 y) := by
  have hreader : handlerKey L er = responseReceiptStorageKey (T.keccak256 y) := by
    rw [handlerKey_eq, hhash r er y her hy]
  have hwritten : writtenKey T r = some (responseReceiptStorageKey (T.keccak256 x)) := by
    rw [writtenKey, hashRequest, hx]
    rfl
  refine ⟨⟨fun _ _ _ => childReceipt_store, fun _ _ _ _ _ => handlerKey_absent⟩,
    encode_request_ne hx hy, ?_, ?_, fun hdelivered => ?_, fun hsame h key hkey hsome => ?_⟩
  · rw [hreader]
    simp [receiptsStateTrieKey, hashPostResponse, hy]
  · rw [hwritten, hreader, Option.some.injEq, responseReceiptStorageKey_inj]
  · -- a host that holds this receipt alone
    let h : Host Other :=
      { w₀.host with responseReceipts := Function.update (fun _ => none) (T.keccak256 x) (some ⟨T.keccak256 y, []⟩) }
    have hsome := hdelivered h _ hwritten (by
      rw [childReceipt_storageKey]
      simp [h])
    rw [hreader, childReceipt_storageKey] at hsome
    by_contra hne
    have hnone : h.responseReceipts (T.keccak256 y) = none := by
      show Function.update (fun _ => none) (T.keccak256 x) _ (T.keccak256 y) = none
      rw [Function.update_of_ne (Ne.symm hne)]
    rw [hnone] at hsome
    cases hsome
  · rw [hreader, ← hsame]
    rw [hwritten, Option.some.injEq] at hkey
    rwa [hkey]

/-- The sample digest over the bytes the library hashes. -/
def solidityHash (r : Evm.PostResponse) : H256 :=
  let post := r.request
  sampleDigest (post.source ++ post.dest ++ beBytes 8 post.nonce.toNat ++ beBytes 8 post.timeoutTimestamp.toNat
    ++ post.fromModule ++ post.toModule ++ post.body ++ r.response ++ beBytes 8 r.timeoutTimestamp.toNat)

def handlerLibraries : Evm.Libraries :=
  Evm.sampleLibraries (fun _ => BytesN.zero 32) solidityHash fun _ _ => BytesN.zero 32

theorem solidityHash_eq (r : PostResponse) (er : Evm.PostResponse) (y : Bytes) (her : r.toSolidity = some er)
    (hy : r.encode = some y) : handlerLibraries.hashPostResponse er = sampleDigest y := by
  obtain ⟨source, hsource, her⟩ := Option.bind_eq_some_iff.mp her
  obtain ⟨dest, hdest, her⟩ := Option.bind_eq_some_iff.mp her
  obtain rfl := Option.some.inj her
  have hencode : r.encode = some (source ++ dest ++ beBytes 8 r.post.nonce.toNat
      ++ beBytes 8 r.post.timeoutTimestamp.toNat ++ r.post.fromModule ++ r.post.toModule ++ r.post.body
      ++ r.response ++ beBytes 8 r.timeoutTimestamp.toNat) := by
    simp [PostResponse.encode, PostResponse.request, Request.encode, hsource, hdest]
  rw [hencode] at hy
  rw [← Option.some.inj hy]
  rfl

def deliveredResponse : PostResponse :=
  ⟨⟨.polkadot 3367, .polkadot 2000, 0, asBytes "from", asBytes "to", 0, asBytes "body"⟩, asBytes "answer", 20⟩

def deliveredSolidity : Evm.PostResponse :=
  ⟨⟨asBytes "POLKADOT-3367", asBytes "POLKADOT-2000", 0, asBytes "from", asBytes "to", 0, asBytes "body"⟩,
    asBytes "answer", 20⟩

def receiverConfig : Config Unit :=
  trackingConfig (.polkadot 3367) (.polkadot 2000) sampleDigest (committedClient sampleDigest (BytesN.zero 32))

/-- The receipt has been stored. -/
def deliveredWorld : World Unit :=
  ((storeResponseReceipt receiverConfig (.post deliveredResponse) [7]).run ⟨sampleHost, []⟩).2

/-- The child trie of the receiver. -/
def receiverContent (root : H256) (key : Bytes) : Option Bytes :=
  if root = BytesN.ofNat 32 1 then
    (childReceipt deliveredWorld.host key).map fun receipt => receipt.response.bytes ++ receipt.relayer
  else none

def receiverHeight : StateMachineHeight := ⟨⟨.polkadot 3367, sampleConsensusId⟩, 1⟩

def senderConfig : Config Unit :=
  trackingConfig (.polkadot 2000) (.polkadot 3367) sampleDigest
    (Substrate.substrateStateMachine (Substrate.oneNodeLibraries receiverContent) Substrate.childParams)

def senderHost : Host Unit :=
  { trackingHost receiverHeight Substrate.childState 31000000000 with
    responseCommitments := fun c =>
      if c = sampleDigest (deliveredResponse.encode.getD []) then some ⟨⟨0, 0⟩, ⟨[], 0⟩, false⟩ else none }

theorem response_receipt_keys_agree_iff_sample :
    receiptsStateTrieKey sampleDigest (.response [.post deliveredResponse]) =
      [handlerKey handlerLibraries deliveredSolidity] ∧
    writtenKey receiverConfig deliveredResponse ≠ some (handlerKey handlerLibraries deliveredSolidity) := by
  have hx : deliveredResponse.request.encode = some (deliveredResponse.request.encode.getD []) := by decide +kernel
  have hy : deliveredResponse.encode = some (deliveredResponse.encode.getD []) := by decide +kernel
  obtain ⟨-, -, hreaders, hwriter, -⟩ := response_receipt_keys_agree_iff (T := receiverConfig) ⟨sampleHost, []⟩ hx hy
    (by decide +kernel : deliveredResponse.toSolidity = some deliveredSolidity) solidityHash_eq
  refine ⟨hreaders, fun h => ?_⟩
  have hcollision : sampleDigest (deliveredResponse.request.encode.getD []) =
      sampleDigest (deliveredResponse.encode.getD []) := hwriter.mp h
  revert hcollision
  decide +kernel

/-- The answer is delivered, an overlay proof shows nothing under the key that is looked up, and the answer
times out. -/
theorem delivered_response_times_out :
    let msg : TimeoutMessage := .postResponse [deliveredResponse] ⟨receiverHeight, [0, 1, 4, 4, 1]⟩
    (∃ key, writtenKey receiverConfig deliveredResponse = some key ∧
      (childReceipt deliveredWorld.host key).isSome = true ∧
      key ≠ handlerKey handlerLibraries deliveredSolidity) ∧
    receiptsStateTrieKey sampleDigest (.response [.post deliveredResponse]) =
      [handlerKey handlerLibraries deliveredSolidity] ∧
    childReceipt deliveredWorld.host (handlerKey handlerLibraries deliveredSolidity) = none ∧
    (∀ hasher, ((Substrate.oneNodeLibraries receiverContent).trieGet hasher).Sound receiverContent) ∧
    ((handleTimeout senderConfig msg).run ⟨senderHost, []⟩).1.isOk = true ∧
    ((handleTimeout senderConfig msg).run ⟨senderHost, []⟩).2.trace =
      [.timingOut (.response deliveredResponse), .timedOut (.response deliveredResponse) true] := by
  refine ⟨⟨responseReceiptStorageKey (sampleDigest (deliveredResponse.request.encode.getD [])), by decide +kernel,
    by decide +kernel, by decide +kernel⟩, by decide +kernel, by decide +kernel,
    Substrate.trieGet_sound_oneNode receiverContent, by decide +kernel, by decide +kernel⟩

end Hyperbridge.Ismp

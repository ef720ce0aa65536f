import Hyperbridge.Ismp.Delivery
import Hyperbridge.Ismp.TwoChains
import Hyperbridge.Lib.Trie

/-!
# State proofs of Substrate chains

A commitment of a Substrate chain has two roots: that of the chain's state, and the overlay root, that of the child trie
of pallet-ismp (on the coprocessor this is stored as state root). Which of them a state proof is read against is up to
the variant the prover has chosen. `verify_membership` insists on one variant, `verify_state_proof` takes both.
-/

namespace Hyperbridge.Ismp.Substrate

open Lib Exec

inductive HashAlgorithm where
  | keccak
  | blake2
  deriving DecidableEq

/-- `StateMachineProof`. -/
structure StateMachineProof where
  hasher : HashAlgorithm
  storageProof : List Bytes
  deriving DecidableEq

/-- `SubstrateStateProof`. -/
inductive SubstrateStateProof where
  | overlayProof (proof : StateMachineProof)
  | stateProof (proof : StateMachineProof)
  deriving DecidableEq

namespace SubstrateStateProof

def hasher : SubstrateStateProof → HashAlgorithm
  | overlayProof proof => proof.hasher
  | stateProof proof => proof.hasher

def storageProof : SubstrateStateProof → List Bytes
  | overlayProof proof => proof.storageProof
  | stateProof proof => proof.storageProof

def isOverlay : SubstrateStateProof → Bool
  | overlayProof _ => true
  | stateProof _ => false

end SubstrateStateProof

/-- The decoder of proofs, and `trie_db` for the two hashes. -/
structure Libraries where
  decodeProof : Bytes → Except String SubstrateStateProof
  trieGet : HashAlgorithm → TrieLookup

structure Params where
  coprocessor : Option StateMachine
  keccak256 : Bytes → H256

variable (L : Libraries) (T : Params)

def decodeStateProof (proof : Proof) : Except Error SubstrateStateProof :=
  match L.decodeProof proof.proof with
  | .error e => .error (.custom ("failed to decode proof: " ++ e))
  | .ok stateProof => .ok stateProof

/-- The root of the child trie of pallet-ismp. -/
def childRoot (state : StateCommitment) (proof : Proof) : Except Error H256 :=
  if T.coprocessor = some proof.height.id.stateId then .ok state.stateRoot
  else okOr state.overlayRoot (.custom "Child trie root is not available for provided state commitment")

variable (stateProof : SubstrateStateProof)

/-- One key of a proof. -/
def lookup (root : H256) (key : Bytes) : Except Error (Option Bytes) :=
  match L.trieGet stateProof.hasher stateProof.storageProof root key with
  | .error e => .error (.custom ("Error reading state proof: " ++ e))
  | .ok value => .ok value

def requestCommitmentStorageKey (c : H256) : Bytes := asBytes "RequestCommitments" ++ c.bytes

def responseCommitmentStorageKey (c : H256) : Bytes := asBytes "ResponseCommitments" ++ c.bytes

def commitmentKeys : RequestResponse → List Bytes
  | .request requests => (requests.filterMap (hashRequest T.keccak256)).map requestCommitmentStorageKey
  | .response responses => (responses.filterMap (hashResponse T.keccak256)).map responseCommitmentStorageKey

def readMember (root : H256) (key : Bytes) : Except Error (Bytes × Bytes) := do
  match ← lookup L stateProof root key with
  | some value => .ok (key, value)
  | none => .error (.custom ("Every key in a membership proof should have a value, found a key "
      ++ debugBytes key ++ " with None"))

/-- `verify_membership`. -/
def verifyMembership (item : RequestResponse) (state : StateCommitment) (proof : Proof) : Except Error Unit := do
  let stateProof ← decodeStateProof L proof
  errIf (stateProof.isOverlay = false) (.custom "Expected Overlay Proof")
  let root ← childRoot T state proof
  let _ ← (commitmentKeys T item).mapM (readMember L stateProof root)

/-- The variant of the proof chooses the root. -/
def proofRoot (state : StateCommitment) (proof : Proof) : Except Error H256 :=
  match stateProof with
  | .overlayProof _ => childRoot T state proof
  | .stateProof _ => .ok state.stateRoot

/-- `verify_state_proof`. -/
def verifyStateProof (keys : List Bytes) (state : StateCommitment) (proof : Proof) :
    Except Error (Std.TreeMap Bytes (Option Bytes)) := do
  let stateProof ← decodeStateProof L proof
  let root ← proofRoot T stateProof state proof
  let values ← keys.mapM (lookup L stateProof root)
  pure (.ofList (keys.zip values))

def substrateStateMachine {Other : Type} : StateMachineClient Other where
  verifyMembership _ := verifyMembership L T
  receiptsStateTrieKey := receiptsStateTrieKey T.keccak256
  verifyStateProof _ keys state proof := Std.TreeMap.toList <$> verifyStateProof L T keys state proof

variable {L T} {content : H256 → Bytes → Option Bytes} {keys : List Bytes} {state : StateCommitment} {proof : Proof}

theorem lookup_ok (hsound : ∀ hasher, (L.trieGet hasher).Sound content) {stateProof : SubstrateStateProof}
    {root : H256} {key : Bytes} {value : Option Bytes} (h : lookup L stateProof root key = .ok value) :
    value = content root key := by
  unfold lookup at h
  split at h
  · cases h
  · rename_i found hget
    rw [← Except.ok.inj h]
    exact hsound _ _ _ _ _ hget

theorem verifyStateProof_ok (hsound : ∀ hasher, (L.trieGet hasher).Sound content)
    {map : Std.TreeMap Bytes (Option Bytes)} (h : verifyStateProof L T keys state proof = .ok map) :
    ∃ stateProof root, L.decodeProof proof.proof = .ok stateProof ∧
      proofRoot T stateProof state proof = .ok root ∧
      ∀ key v, map[key]? = some v ↔ key ∈ keys ∧ v = content root key := by
  obtain ⟨stateProof, hproof, h⟩ := except_bind_ok.mp h
  obtain ⟨root, hroot, h⟩ := except_bind_ok.mp h
  obtain ⟨values, hvalues, h⟩ := except_bind_ok.mp h
  obtain rfl := Except.ok.inj h
  have hdecode : L.decodeProof proof.proof = .ok stateProof := by
    unfold decodeStateProof at hproof
    split at hproof
    · cases hproof
    · rename_i found hfound
      rw [hfound, Except.ok.inj hproof]
  have hfst := map_fst_zip_of_mapM hvalues
  refine ⟨stateProof, root, hdecode, hroot, fun key v => ?_⟩
  rw [Std.TreeMap.ofList_eq_insertMany_empty]
  by_cases hkey : key ∈ keys
  · have hentries (kv : Bytes × Option Bytes) (hkv : kv ∈ keys.zip values) : kv.2 = content root kv.1 :=
      lookup_ok hsound (of_mem_zip_of_mapM hvalues hkv)
    rw [getElem?_insertMany_iff (R := fun key v => v = content root key) (fun _ _ _ h h' => h.trans h'.symm) hentries
      (hfst.symm ▸ hkey)]
    exact ⟨fun h => ⟨hkey, h⟩, fun h => h.2⟩
  · rw [getElem?_insertMany_of_notMem (hfst.symm ▸ hkey)]
    exact ⟨fun h => by simp at h, fun h => absurd h.1 hkey⟩

/-- The child trie lacks the key. -/
def AbsentFromChildTrie (content : H256 → Bytes → Option Bytes) (state : StateCommitment) (key : Bytes) : Prop :=
  ∃ root, state.overlayRoot = some root ∧ content root key = none

/-- For a chain that is not the coprocessor: what is reported absent is absent from the child trie exactly
if the proof comes as an overlay proof, or happens to ask only for keys that are missing in the child trie
when they are missing in the chain's state. -/
theorem absent_from_child_trie_iff (hsound : ∀ hasher, (L.trieGet hasher).Sound content)
    (hchain : T.coprocessor ≠ some proof.height.id.stateId) {map : Std.TreeMap Bytes (Option Bytes)}
    (h : verifyStateProof L T keys state proof = .ok map) :
    ∃ stateProof, L.decodeProof proof.proof = .ok stateProof ∧
      ((∀ key, map[key]? = some none → AbsentFromChildTrie content state key) ↔ stateProof.isOverlay = true ∨
          ∀ key ∈ keys, content state.stateRoot key = none → AbsentFromChildTrie content state key) := by
  obtain ⟨stateProof, root, hdecode, hroot, hmap⟩ := verifyStateProof_ok hsound h
  refine ⟨stateProof, hdecode, ?_⟩
  simp only [hmap]
  cases stateProof with
  | overlayProof p =>
    simp only [proofRoot, childRoot, if_neg hchain, okOr_eq_ok] at hroot
    exact ⟨fun _ => .inl rfl, fun _ key hkey => ⟨root, hroot, hkey.2.symm⟩⟩
  | stateProof p =>
    obtain rfl := Except.ok.inj hroot
    constructor
    · exact fun habsent => .inr fun key hkey hnone => habsent key ⟨hkey, hnone.symm⟩
    · rintro (hoverlay | habsent) key ⟨hkey, hnone⟩
      · cases hoverlay
      · exact habsent key hkey hnone.symm

def routedRequest : PostRequest :=
  ⟨.polkadot 3367, .polkadot 2000, 0, asBytes "from", asBytes "to", 20, asBytes "body"⟩

def unroutedRequest : PostRequest := { routedRequest with nonce := 1 }

def receiptOf (p : PostRequest) : Bytes := requestReceiptStorageKey (sampleCommitmentOf p)

def childContent (root : H256) (key : Bytes) : Option Bytes :=
  if root = BytesN.ofNat 32 1 ∧ key = receiptOf routedRequest then some [7] else none

def oneNodeLibraries (content : H256 → Bytes → Option Bytes) : Libraries where
  decodeProof b :=
    if b = [0, 1, 4, 4, 1] then .ok (.overlayProof ⟨.blake2, [[1]]⟩)
    else if b = [1, 1, 4, 4, 1] then .ok (.stateProof ⟨.blake2, [[1]]⟩)
    else .error "Error"
  trieGet _ nodes root key := if nodes = [] then .error "IncompleteDatabase" else .ok (content root key)

theorem trieGet_sound_oneNode (content : H256 → Bytes → Option Bytes) (hasher : HashAlgorithm) :
    ((oneNodeLibraries content).trieGet hasher).Sound content := by
  intro nodes root key value h
  simp only [oneNodeLibraries] at h
  split at h
  · cases h
  · exact (Except.ok.inj h).symm

def childLibraries : Libraries := oneNodeLibraries childContent

def childParams : Params := ⟨none, sampleDigest⟩

def childConfig : Config Unit :=
  trackingConfig (.polkadot 3367) (.polkadot 2000) sampleDigest (substrateStateMachine childLibraries childParams)

def childState : StateCommitment := ⟨30, some (BytesN.ofNat 32 1), BytesN.ofNat 32 2⟩

/-- Both requests are committed to. -/
def childHost : Host Unit :=
  { trackingHost sampleHeight childState 31000000000 with
    requestCommitments := fun c =>
      if c = sampleCommitmentOf routedRequest ∨ c = sampleCommitmentOf unroutedRequest then
        some ⟨⟨0, 0⟩, ⟨[], 0⟩, false⟩
      else none }

theorem absent_from_child_trie_iff_sample :
    (verifyStateProof childLibraries childParams [receiptOf unroutedRequest] childState
      ⟨sampleHeight, [0, 1, 4, 4, 1]⟩).toOption.map Std.TreeMap.toList = some [(receiptOf unroutedRequest, none)] ∧
    AbsentFromChildTrie childContent childState (receiptOf unroutedRequest) := by
  have hlist : (verifyStateProof childLibraries childParams [receiptOf unroutedRequest] childState
      ⟨sampleHeight, [0, 1, 4, 4, 1]⟩).toOption.map Std.TreeMap.toList = some [(receiptOf unroutedRequest, none)] := by
    decide +kernel
  refine ⟨hlist, ?_⟩
  cases h : verifyStateProof childLibraries childParams [receiptOf unroutedRequest] childState
      ⟨sampleHeight, [0, 1, 4, 4, 1]⟩ with
  | error e =>
    rw [h] at hlist
    cases hlist
  | ok map =>
    rw [h] at hlist
    have hentry : map[receiptOf unroutedRequest]? = some none := by
      rw [← Std.TreeMap.mem_toList_iff_getElem?_eq_some, Option.some.inj hlist]
      exact List.mem_cons_self
    obtain ⟨stateProof, hdecode, hiff⟩ := absent_from_child_trie_iff (trieGet_sound_oneNode childContent) (by decide) h
    obtain rfl : _ = stateProof := Except.ok.inj hdecode
    exact hiff.mpr (.inl rfl) _ hentry

/-- Read as a state proof, the same node shows that the chain's state has no such key, and the request times
out although the child trie holds its receipt. -/
theorem receipt_read_in_state_trie :
    let msg : TimeoutMessage := .post [.post routedRequest] ⟨sampleHeight, [1, 1, 4, 4, 1]⟩
    (∀ hasher, (childLibraries.trieGet hasher).Sound childContent) ∧
    receiptsStateTrieKey sampleDigest (.request [.post routedRequest]) = [receiptOf routedRequest] ∧
    (verifyStateProof childLibraries childParams [receiptOf routedRequest] childState
      ⟨sampleHeight, [1, 1, 4, 4, 1]⟩).toOption.map Std.TreeMap.toList = some [(receiptOf routedRequest, none)] ∧
    ¬ AbsentFromChildTrie childContent childState (receiptOf routedRequest) ∧
    ((handleTimeout childConfig msg).run ⟨childHost, []⟩).1.isOk = true ∧
    ((handleTimeout childConfig msg).run ⟨childHost, []⟩).2.trace =
      [.timingOut (.request (.post routedRequest)), .timedOut (.request (.post routedRequest)) true] := by
  refine ⟨trieGet_sound_oneNode childContent, by decide +kernel, by decide +kernel, ?_, by decide +kernel, by
    decide +kernel⟩
  rintro ⟨root, hroot, hnone⟩
  obtain rfl := Option.some.inj hroot
  revert hnone
  decide +kernel

end Hyperbridge.Ismp.Substrate

import Hyperbridge.Ismp.Delivery
import Hyperbridge.Lib.Digits
import Hyperbridge.Lib.Trie

/-!
# State proofs of EVM chains

`evm-common`: the state machine client for EVM chains. A key is a slot of the host contract (32 bytes), a
slot of another contract (20 and 32 bytes), or an account (20 bytes). The keys are grouped by contract, but
the contracts are read in the order and number in which the *prover* lists them, so a key of a contract that
is not listed has no entry in the result.
-/

namespace Hyperbridge.Ismp.EvmCommon

open Lib Exec

structure EvmStateProof where
  contractProof : List Bytes
  storageProof : Std.TreeMap Bytes (List Bytes)

structure Account where
  nonce : UInt64
  balance : BitVec 256
  storageRoot : H256
  codeHash : H256

def Account.encode (a : Account) : Bytes :=
  rlpList [rlpNat a.nonce.toNat, rlpNat a.balance.toNat, rlpBytes a.storageRoot.bytes, rlpBytes a.codeHash.bytes]

structure Libraries where
  keccak256 : Bytes → H256
  decodeProof : Bytes → Option EvmStateProof
  trieGet : TrieLookup
  decodeAccount : Bytes → Option Account

variable (L : Libraries)

def decodeEvmStateProof (proof : Proof) : Except Error EvmStateProof :=
  okOr (L.decodeProof proof.proof) (.custom "Cannot decode evm state proof")

/-- `get_contract_account`. -/
def getContractAccount (contractAccountProof : List Bytes) (contractAddress : Bytes) (root : H256) :
    Except Error Account :=
  match L.trieGet contractAccountProof root (L.keccak256 contractAddress).bytes with
  | .error _ => .error (.custom "Invalid contract account proof")
  | .ok none => .error (.custom "Contract account is not present in proof")
  | .ok (some result) =>
      okOr (L.decodeAccount result)
        (.custom ("Error decoding contract account from value " ++ debugBytes result))

def getValuesFromProof (keys : List Bytes) (root : H256) (proof : List Bytes) :
    Except Error (List (Option Bytes)) :=
  keys.mapM fun key =>
    match L.trieGet proof root key with
    | .error _ => .error (.custom "Error reading proof db")
    | .ok value => .ok value

/-- The slots of the maps of the host contract. -/
def requestCommitmentsSlot : Nat := 0

def responseCommitmentsSlot : Nat := 1

def requestReceiptsSlot : Nat := 2

def responseReceiptsSlot : Nat := 3

def deriveUnhashedMapKey (key : Bytes) (slot : Nat) : H256 := L.keccak256 (key ++ beBytes 32 slot)

/-- `derive_map_key`. -/
def deriveMapKey (key : Bytes) (slot : Nat) : H256 := L.keccak256 (L.keccak256 (key ++ beBytes 32 slot)).bytes

/-- The source panics if the sum does not fit in 256 bits. -/
def deriveMapKeyWithOffset (key : Bytes) (slot offset : Nat) : Except Error H256 :=
  let number := beValue (L.keccak256 (key ++ beBytes 32 slot)).bytes + offset
  if number < 2 ^ 256 then .ok (L.keccak256 (beBytes 32 number))
  else .error (.custom "arithmetic operation overflow")

/-- The word after the fee: the sender, which is never zero. -/
def reqResCommitmentKey : RequestResponse → Except Error (List Bytes)
  | .request requests => (requests.filterMap (hashRequest L.keccak256)).mapM fun commitment =>
      (·.bytes) <$> deriveMapKeyWithOffset L commitment.bytes requestCommitmentsSlot 1
  | .response responses => (responses.filterMap (hashResponse L.keccak256)).mapM fun commitment =>
      (·.bytes) <$> deriveMapKeyWithOffset L commitment.bytes responseCommitmentsSlot 1

def reqResReceiptKeys : RequestResponse → List Bytes
  | .request requests => (requests.filterMap (hashRequest L.keccak256)).map fun commitment =>
      (deriveUnhashedMapKey L commitment.bytes requestReceiptsSlot).bytes
  | .response responses => (responses.filterMap fun r => hashRequest L.keccak256 r.request).map fun commitment =>
      (deriveUnhashedMapKey L commitment.bytes responseReceiptsSlot).bytes

/-- Here a contract that is not listed is an error. -/
def verifyMembership (item : RequestResponse) (root : StateCommitment) (proof : Proof) (contractAddress : H160) :
    Except Error Unit := do
  let evmStateProof ← decodeEvmStateProof L proof
  let storageProof ← okOr evmStateProof.storageProof[contractAddress.bytes]?
    (.custom "Ismp contract account trie proof is missing")
  let keys ← reqResCommitmentKey L item
  let account ← getContractAccount L evmStateProof.contractProof contractAddress.bytes root.stateRoot
  let values ← getValuesFromProof L keys account.storageRoot storageProof
  if values.any Option.isNone then .error (.custom "Missing values for some keys in the proof") else .ok ()

structure Queries where
  contractToKeys : Std.TreeMap Bytes (List (Bytes × Bytes))
  contractAccountQueries : List Bytes

def Queries.push (q : Queries) (contractAddress key : Bytes) (slotHash : H256) : Queries :=
  { q with
    contractToKeys := q.contractToKeys.insert contractAddress
      (q.contractToKeys[contractAddress]?.getD [] ++ [(key, slotHash.bytes)]) }

def groupKey (ismpAddress : H160) (q : Queries) (key : Bytes) : Except Error Queries :=
  if key.length = 52 then .ok (q.push (key.take 20) key (L.keccak256 (key.drop 20)))
  else if key.length = 32 then .ok (q.push ismpAddress.bytes key (L.keccak256 key))
  else if key.length = 20 then .ok { q with contractAccountQueries := q.contractAccountQueries ++ [key] }
  else .error (.custom "Unsupported Key type, found a key whose length is not one of 20, 32 or 52")

/-- The loop body over the contracts the prover lists. -/
def readContract (contractProof : List Bytes) (root : H256)
    (acc : Std.TreeMap Bytes (List (Bytes × Bytes)) × Std.TreeMap Bytes (Option Bytes))
    (entry : Bytes × List Bytes) :
    Except Error (Std.TreeMap Bytes (List (Bytes × Bytes)) × Std.TreeMap Bytes (Option Bytes)) := do
  let account ← getContractAccount L contractProof entry.1 root
  match acc.1[entry.1]? with
  | some keys => do
      let values ← getValuesFromProof L (keys.map Prod.snd) account.storageRoot entry.2
      pure (acc.1.erase entry.1, acc.2.insertMany ((keys.map Prod.fst).zip values))
  | none => pure acc

def readAccount (contractProof : List Bytes) (root : H256) (map : Std.TreeMap Bytes (Option Bytes))
    (contractAddress : Bytes) : Except Error (Std.TreeMap Bytes (Option Bytes)) := do
  let account ← getContractAccount L contractProof contractAddress root
  pure (map.insert contractAddress (some account.encode))

/-- `verify_state_proof`. -/
def verifyStateProof (keys : List Bytes) (root : StateCommitment) (proof : Proof) (ismpAddress : H160) :
    Except Error (Std.TreeMap Bytes (Option Bytes)) := do
  let evmStateProof ← decodeEvmStateProof L proof
  let queries ← keys.foldlM (groupKey L ismpAddress) ⟨∅, []⟩
  let answers ← evmStateProof.storageProof.toList.foldlM (readContract L evmStateProof.contractProof root.stateRoot)
    (queries.contractToKeys, ∅)
  queries.contractAccountQueries.foldlM (readAccount L evmStateProof.contractProof root.stateRoot) answers.2

def evmStateMachine {Other : Type} (evmHosts : Host Other → StateMachine → Option H160) :
    StateMachineClient Other where
  verifyMembership h item root proof := do
    let contractAddress ← okOr (evmHosts h proof.height.id.stateId) (.custom "Ismp contract address not found")
    verifyMembership L item root proof contractAddress
  receiptsStateTrieKey := reqResReceiptKeys L
  verifyStateProof h keys root proof := do
    let ismpAddress ← okOr (evmHosts h proof.height.id.stateId) (.custom "Ismp contract address not found")
    Std.TreeMap.toList <$> verifyStateProof L keys root proof ismpAddress

def contractOf (ismpAddress : H160) (key : Bytes) : Option Bytes :=
  if key.length = 52 then some (key.take 20)
  else if key.length = 32 then some ismpAddress.bytes
  else none

def slotHash (key : Bytes) : Bytes :=
  if key.length = 52 then (L.keccak256 (key.drop 20)).bytes else (L.keccak256 key).bytes

def SlotShown (p : EvmStateProof) (root : H256) (contract key : Bytes) (value : Option Bytes) : Prop :=
  ∃ nodes account, p.storageProof[contract]? = some nodes ∧
    getContractAccount L p.contractProof contract root = .ok account ∧
    L.trieGet nodes account.storageRoot (slotHash L key) = .ok value

def Shown (p : EvmStateProof) (root : H256) (ismpAddress : H160) (key : Bytes) (value : Option Bytes) : Prop :=
  match contractOf ismpAddress key with
  | some contract => SlotShown L p root contract key value
  | none => ∃ account, getContractAccount L p.contractProof key root = .ok account ∧ value = some account.encode

variable {L} {p : EvmStateProof} {root : H256} {ismpAddress : H160} {key : Bytes} {keys : List Bytes}

variable {contract : Bytes}

theorem SlotShown.unique {v v' : Option Bytes} (h : SlotShown L p root contract key v)
    (h' : SlotShown L p root contract key v') : v = v' := by
  obtain ⟨nodes, account, hnodes, haccount, hv⟩ := h
  obtain ⟨nodes', account', hnodes', haccount', hv'⟩ := h'
  obtain rfl := Option.some.inj (hnodes.symm.trans hnodes')
  obtain rfl := Except.ok.inj (haccount.symm.trans haccount')
  exact Except.ok.inj (hv.symm.trans hv')

/-- What the keys so far have been grouped to. -/
structure Grouped (L : Libraries) (ismpAddress : H160) (keys : List Bytes) (q : Queries) : Prop where
  accounts : q.contractAccountQueries = keys.filter fun key => contractOf ismpAddress key = none
  slots : ∀ contract, q.contractToKeys[contract]?.getD [] =
    (keys.filter fun key => contractOf ismpAddress key = some contract).map fun key => (key, slotHash L key)

variable {q : Queries}

theorem Grouped.push (h : Grouped L ismpAddress keys q) {hash : H256}
    (hcontract : contractOf ismpAddress key = some contract) (hhash : slotHash L key = hash.bytes) :
    Grouped L ismpAddress (keys ++ [key]) (q.push contract key hash) := by
  constructor
  · simp [Queries.push, h.accounts, hcontract]
  · intro c
    rw [Queries.push, Std.TreeMap.getElem?_insert, List.filter_append, List.map_append, ← h.slots c]
    by_cases hc : contract = c
    · subst hc
      simp [hcontract, hhash]
    · have hne : compare contract c ≠ .eq := fun heq => hc (Std.LawfulEqOrd.eq_of_compare heq)
      simp [hcontract, hc, hne]

theorem Grouped.step {q' : Queries} (h : Grouped L ismpAddress keys q)
    (hstep : groupKey L ismpAddress q key = .ok q') : Grouped L ismpAddress (keys ++ [key]) q' := by
  unfold groupKey at hstep
  split at hstep
  · rename_i hlen
    obtain rfl := Except.ok.inj hstep
    exact h.push (by rw [contractOf, if_pos hlen]) (by rw [slotHash, if_pos hlen])
  split at hstep
  · rename_i hlen' hlen
    obtain rfl := Except.ok.inj hstep
    exact h.push (by rw [contractOf, if_neg hlen', if_pos hlen]) (by rw [slotHash, if_neg hlen'])
  split at hstep
  · rename_i hlen52 hlen32 hlen
    obtain rfl := Except.ok.inj hstep
    have hnone : contractOf ismpAddress key = none := by rw [contractOf, if_neg hlen52, if_neg hlen32]
    constructor
    · simp [h.accounts, hnone]
    · intro c
      simp [h.slots c, hnone]
  · cases hstep

theorem grouped_of_foldlM (h : keys.foldlM (groupKey L ismpAddress) ⟨∅, []⟩ = .ok q) : Grouped L ismpAddress keys q :=
  except_foldlM_induct (Grouped L ismpAddress) (fun _ _ _ _ _ _ hq hstep => hq.step hstep)
    ⟨rfl, fun _ => rfl⟩ h

/-- What has been read after the contracts in `done`. -/
structure Answered (L : Libraries) (p : EvmStateProof) (root : H256) (ismpAddress : H160) (keys : List Bytes)
    (q : Queries) (done : List (Bytes × List Bytes))
    (acc : Std.TreeMap Bytes (List (Bytes × Bytes)) × Std.TreeMap Bytes (Option Bytes)) : Prop where
  waiting : ∀ contract ∉ done.map Prod.fst, acc.1[contract]? = q.contractToKeys[contract]?
  sound : ∀ key v, acc.2[key]? = some v →
    key ∈ keys ∧ ∃ contract, contractOf ismpAddress key = some contract ∧ SlotShown L p root contract key v
  complete : ∀ key ∈ keys, ∀ contract ∈ done.map Prod.fst, contractOf ismpAddress key = some contract →
    ∃ v, acc.2[key]? = some v

theorem getValuesFromProof_ok {root : H256} {nodes : List Bytes} {values : List (Option Bytes)}
    (h : getValuesFromProof L (keys.map (slotHash L)) root nodes = .ok values) :
    (keys.zip values).map Prod.fst = keys ∧
      ∀ kv ∈ keys.zip values, L.trieGet nodes root (slotHash L kv.1) = .ok kv.2 := by
  rw [getValuesFromProof, List.mapM_map] at h
  refine ⟨map_fst_zip_of_mapM h, fun kv hkv => ?_⟩
  have hget := of_mem_zip_of_mapM h hkv
  simp only [Function.comp_apply] at hget
  split at hget
  · cases hget
  · rename_i value heq
    rw [heq, Except.ok.inj hget]

variable {entry : Bytes × List Bytes}

theorem storageProof_entry {done rest : List (Bytes × List Bytes)}
    (hlist : p.storageProof.toList = done ++ entry :: rest) :
    p.storageProof[entry.1]? = some entry.2 ∧ entry.1 ∉ done.map Prod.fst := by
  constructor
  · rw [← Std.TreeMap.mem_toList_iff_getElem?_eq_some, hlist]
    simp
  · have hdistinct := Std.TreeMap.distinct_keys_toList (t := p.storageProof)
    rw [hlist, List.pairwise_append] at hdistinct
    intro hmem
    obtain ⟨other, hother, heq⟩ := List.mem_map.mp hmem
    exact hdistinct.2.2 other hother entry List.mem_cons_self (heq ▸ Std.ReflCmp.compare_self)

variable {acc : Std.TreeMap Bytes (List (Bytes × Bytes)) × Std.TreeMap Bytes (Option Bytes)}

theorem readContract_ok {own : List Bytes}
    {acc' : Std.TreeMap Bytes (List (Bytes × Bytes)) × Std.TreeMap Bytes (Option Bytes)}
    (hnodes : p.storageProof[entry.1]? = some entry.2)
    (hown : acc.1[entry.1]?.getD [] = own.map fun key => (key, slotHash L key))
    (h : readContract L p.contractProof root acc entry = .ok acc') :
    (∀ contract, contract ≠ entry.1 → acc'.1[contract]? = acc.1[contract]?) ∧
      (∀ key ∉ own, acc'.2[key]? = acc.2[key]?) ∧
      ∀ key ∈ own, ∃ v, acc'.2[key]? = some v ∧ SlotShown L p root entry.1 key v := by
  obtain ⟨account, haccount, h⟩ := except_bind_ok.mp h
  cases hkeys : acc.1[entry.1]? with
  | none =>
    rw [hkeys] at hown h
    obtain rfl := Except.ok.inj h
    obtain rfl : own = [] := List.map_eq_nil_iff.mp hown.symm
    simp
  | some ks =>
    rw [hkeys, Option.getD_some] at hown
    rw [hkeys, hown] at h
    obtain ⟨values, hvalues, h⟩ := except_bind_ok.mp h
    rw [List.map_map] at hvalues
    obtain ⟨hfst, hget⟩ := getValuesFromProof_ok hvalues
    have hpair : (own.map fun key => (key, slotHash L key)).map Prod.fst = own := by
      rw [List.map_map]
      exact List.map_id own
    rw [hpair] at h
    obtain rfl := Except.ok.inj h
    have hshown (kv : Bytes × Option Bytes) (hkv : kv ∈ own.zip values) : SlotShown L p root entry.1 kv.1 kv.2 :=
      ⟨entry.2, account, hnodes, haccount, hget kv hkv⟩
    refine ⟨fun c hc => ?_, fun key hkey => getElem?_insertMany_of_notMem (hfst.symm ▸ hkey), fun key hkey => ?_⟩
    · have hcmp : compare entry.1 c ≠ .eq := fun heq => hc (Std.LawfulEqOrd.eq_of_compare heq).symm
      rw [Std.TreeMap.getElem?_erase, if_neg hcmp]
    · have hin : key ∈ (own.zip values).map Prod.fst := hfst.symm ▸ hkey
      obtain ⟨kv, hkv, rfl⟩ := List.mem_map.mp hin
      have hentry := (getElem?_insertMany_iff (m := acc.2) (R := SlotShown L p root entry.1)
        (fun _ _ _ => SlotShown.unique) hshown hin).mpr (hshown kv hkv)
      exact ⟨kv.2, hentry, hshown kv hkv⟩

theorem Answered.step (hq : Grouped L ismpAddress keys q) {done rest : List (Bytes × List Bytes)}
    {acc' : Std.TreeMap Bytes (List (Bytes × Bytes)) × Std.TreeMap Bytes (Option Bytes)}
    (hlist : p.storageProof.toList = done ++ entry :: rest) (h : Answered L p root ismpAddress keys q done acc)
    (hstep : readContract L p.contractProof root acc entry = .ok acc') :
    Answered L p root ismpAddress keys q (done ++ [entry]) acc' := by
  obtain ⟨hnodes, hnew⟩ := storageProof_entry hlist
  have hgroup := hq.slots entry.1
  rw [← h.waiting entry.1 hnew] at hgroup
  obtain ⟨hothers, hkept, hread⟩ := readContract_ok hnodes hgroup hstep
  have hown (key : Bytes) : key ∈ keys.filter (fun key => contractOf ismpAddress key = some entry.1) ↔
      key ∈ keys ∧ contractOf ismpAddress key = some entry.1 := by
    simp
  refine ⟨fun c hc => ?_, fun key v hv => ?_, fun key hkey c hc hcontract => ?_⟩
  · rw [List.map_append, List.mem_append, not_or] at hc
    have hne : c ≠ entry.1 := by simpa using hc.2
    rw [hothers c hne, h.waiting c hc.1]
  · by_cases hmem : key ∈ keys ∧ contractOf ismpAddress key = some entry.1
    · obtain ⟨v', hv', hshown⟩ := hread key ((hown key).mpr hmem)
      obtain rfl := Option.some.inj (hv.symm.trans hv')
      exact ⟨hmem.1, entry.1, hmem.2, hshown⟩
    · rw [hkept key fun hin => hmem ((hown key).mp hin)] at hv
      exact h.sound key v hv
  · by_cases hmem : contractOf ismpAddress key = some entry.1
    · obtain ⟨v, hv, -⟩ := hread key ((hown key).mpr ⟨hkey, hmem⟩)
      exact ⟨v, hv⟩
    · have hdone : c ∈ done.map Prod.fst := by
        rw [List.map_append, List.mem_append] at hc
        refine hc.resolve_right fun hlast => hmem ?_
        rw [hcontract, List.mem_singleton.mp hlast]
      rw [hkept key fun hin => hmem ((hown key).mp hin).2]
      exact h.complete key hkey c hdone hcontract

theorem answered_of_foldlM (hq : Grouped L ismpAddress keys q)
    (h : p.storageProof.toList.foldlM (readContract L p.contractProof root) (q.contractToKeys, ∅) = .ok acc) :
    Answered L p root ismpAddress keys q p.storageProof.toList acc := by
  refine except_foldlM_induct (Answered L p root ismpAddress keys q)
    (fun _ _ _ _ _ hlist hacc hstep => hacc.step hq hlist hstep) ⟨fun _ _ => rfl, fun key v hv => ?_, ?_⟩ h
  · simp at hv
  · simp

/-- What has been read after the accounts in `done`. -/
structure AccountsRead (L : Libraries) (p : EvmStateProof) (root : H256) (start : Std.TreeMap Bytes (Option Bytes))
    (done : List Bytes) (map : Std.TreeMap Bytes (Option Bytes)) : Prop where
  sound : ∀ (key : Bytes) v, map[key]? = some v → start[key]? = some v ∨
    key ∈ done ∧ ∃ account, getContractAccount L p.contractProof key root = .ok account ∧ v = some account.encode
  kept : ∀ (key : Bytes) v, start[key]? = some v → ∃ v', map[key]? = some v'
  complete : ∀ key ∈ done, ∃ v, map[key]? = some v

theorem AccountsRead.step {start map map' : Std.TreeMap Bytes (Option Bytes)} {done : List Bytes}
    (h : AccountsRead L p root start done map) (hstep : readAccount L p.contractProof root map key = .ok map') :
    AccountsRead L p root start (done ++ [key]) map' := by
  obtain ⟨account, haccount, hstep⟩ := except_bind_ok.mp hstep
  obtain rfl := Except.ok.inj hstep
  have hget (other : Bytes) : (map.insert key (some account.encode))[other]? =
      if key = other then some (some account.encode) else map[other]? := by
    rw [Std.TreeMap.getElem?_insert]
    simp only [Std.LawfulEqOrd.compare_eq_iff_eq]
  have hexists (other : Bytes) (hother : ∃ v, map[other]? = some v) :
      ∃ v, (map.insert key (some account.encode))[other]? = some v := by
    rw [hget]
    split
    · exact ⟨_, rfl⟩
    · exact hother
  refine ⟨fun other v hv => ?_, fun other v hv => hexists other (h.kept other v hv), fun other hother => ?_⟩
  · rw [hget] at hv
    split at hv
    · rename_i heq
      subst heq
      exact .inr ⟨by simp, account, haccount, (Option.some.inj hv).symm⟩
    · rcases h.sound other v hv with hv | ⟨hdone, hv⟩
      · exact .inl hv
      · exact .inr ⟨List.mem_append_left _ hdone, hv⟩
  · rcases List.mem_append.mp hother with hdone | hlast
    · exact hexists other (h.complete other hdone)
    · obtain rfl := List.mem_singleton.mp hlast
      exact ⟨_, by rw [hget, if_pos rfl]⟩

theorem verifyStateProof_ok {state : StateCommitment} {proof : Proof} {map : Std.TreeMap Bytes (Option Bytes)}
    (h : verifyStateProof L keys state proof ismpAddress = .ok map) :
    ∃ p, L.decodeProof proof.proof = some p ∧
      (∀ key v, map[key]? = some v → key ∈ keys ∧ Shown L p state.stateRoot ismpAddress key v) ∧
      ∀ key ∈ keys, (∃ v, map[key]? = some v) ↔
        ∀ contract, contractOf ismpAddress key = some contract → contract ∈ p.storageProof := by
  obtain ⟨p, hp, h⟩ := except_bind_ok.mp h
  obtain ⟨q, hq, h⟩ := except_bind_ok.mp h
  obtain ⟨acc, hacc, h⟩ := except_bind_ok.mp h
  have hgrouped := grouped_of_foldlM hq
  have hanswered := answered_of_foldlM hgrouped hacc
  have hread := except_foldlM_induct (AccountsRead L p state.stateRoot acc.2)
    (fun _ _ _ _ _ _ hmap hstep => hmap.step hstep)
    ⟨fun _ _ hv => .inl hv, fun _ v hv => ⟨v, hv⟩, fun _ hkey => nomatch hkey⟩ h
  have haccount (key : Bytes) : key ∈ q.contractAccountQueries ↔ key ∈ keys ∧ contractOf ismpAddress key = none := by
    simp [hgrouped.accounts]
  have hsound (key : Bytes) (v : Option Bytes) (hv : map[key]? = some v) :
      key ∈ keys ∧ Shown L p state.stateRoot ismpAddress key v := by
    unfold Shown
    rcases hread.sound key v hv with hslot | ⟨hquery, hshown⟩
    · obtain ⟨hkey, contract, hcontract, hshown⟩ := hanswered.sound key v hslot
      rw [hcontract]
      exact ⟨hkey, hshown⟩
    · obtain ⟨hkey, hnone⟩ := (haccount key).mp hquery
      rw [hnone]
      exact ⟨hkey, hshown⟩
  refine ⟨p, okOr_eq_ok.mp hp, hsound, fun key hkey => ⟨?_, fun hlisted => ?_⟩⟩
  · rintro ⟨v, hv⟩ contract hcontract
    have hshown := (hsound key v hv).2
    rw [Shown, hcontract] at hshown
    obtain ⟨nodes, account, hnodes, -⟩ := hshown
    rw [Std.TreeMap.mem_iff_isSome_getElem?, hnodes]
    rfl
  · cases hcontract : contractOf ismpAddress key with
    | none => exact hread.complete key ((haccount key).mpr ⟨hkey, hcontract⟩)
    | some contract =>
      have hlist : contract ∈ p.storageProof.toList.map Prod.fst := by
        rw [Std.TreeMap.map_fst_toList_eq_keys, Std.TreeMap.mem_keys]
        exact hlisted contract hcontract
      obtain ⟨v, hv⟩ := hanswered.complete key hkey contract hlist hcontract
      exact hread.kept key v hv

/-- The contract is in the state, and its slot is empty. -/
def SlotEmpty (L : Libraries) (content : H256 → Bytes → Option Bytes) (stateRoot : H256) (contract key : Bytes) :
    Prop :=
  ∃ result account, content stateRoot (L.keccak256 contract).bytes = some result ∧
    L.decodeAccount result = some account ∧ content account.storageRoot (slotHash L key) = none

theorem getContractAccount_ok {nodes : List Bytes} {account : Account}
    (h : getContractAccount L nodes contract root = .ok account) :
    ∃ result, L.trieGet nodes root (L.keccak256 contract).bytes = .ok (some result) ∧
      L.decodeAccount result = some account := by
  unfold getContractAccount at h
  split at h
  · cases h
  · cases h
  · rename_i result hget
    exact ⟨result, hget, okOr_eq_ok.mp h⟩

theorem slotEmpty_of_shown {content : H256 → Bytes → Option Bytes} (hsound : L.trieGet.Sound content)
    (h : SlotShown L p root contract key none) : SlotEmpty L content root contract key := by
  obtain ⟨nodes, account, -, haccount, hvalue⟩ := h
  obtain ⟨result, hget, hdecode⟩ := getContractAccount_ok haccount
  exact ⟨result, account, (hsound _ _ _ _ hget).symm, hdecode, (hsound _ _ _ _ hvalue).symm⟩

def receiptsOf : TimeoutMessage → Option (List Request × Nat × Proof)
  | .post requests proof => some (requests, requestReceiptsSlot, proof)
  | .postResponse responses proof => some (responses.map PostResponse.request, responseReceiptsSlot, proof)
  | .get _ => none

def receiptKey (L : Libraries) (slot : Nat) (commitment : H256) : Bytes :=
  (deriveUnhashedMapKey L commitment.bytes slot).bytes

theorem contractOf_receiptKey (slot : Nat) (c : H256) :
    contractOf ismpAddress (receiptKey L slot c) = some ismpAddress.bytes := by
  simp [contractOf, receiptKey]

section Timeouts

variable {Other : Type} {T : Config Other} {evmHosts : Host Other → StateMachine → Option H160}
  {msg : TimeoutMessage} {requests : List Request} {slot : Nat} {proof : Proof} {w w' : World Other}
  {res : MessageResult}

theorem evmLookup_ok {sm : StateMachineClient Other} {state : StateCommitment} {values : List (Bytes × Option Bytes)}
    (hclient : ∀ client ∈ T.consensusClients, ∀ sm, client.stateMachine proof.height.id.stateId = .ok sm →
      sm = evmStateMachine L evmHosts)
    (hsm : validateStateMachine T proof.height w.host = .ok sm) {items : RequestResponse}
    (hvalues : sm.verifyStateProof w.host (sm.receiptsStateTrieKey items) state proof = .ok values)
    (hnone : (values.any fun kv => kv.2.isSome) = false) :
    ∃ ismpAddress map, evmHosts w.host proof.height.id.stateId = some ismpAddress ∧
      verifyStateProof L (reqResReceiptKeys L items) state proof ismpAddress = .ok map ∧
      ∀ (key : Bytes) v, map[key]? = some v → v = none := by
  obtain ⟨client, hmem, hstate⟩ := validateStateMachine_ok hsm
  obtain rfl := hclient client hmem sm hstate
  obtain ⟨ismpAddress, haddress, hvalues⟩ := except_bind_ok.mp hvalues
  obtain ⟨map, hmap, hlist⟩ := except_map_ok.mp hvalues
  refine ⟨ismpAddress, map, okOr_eq_ok.mp haddress, hmap, fun key v hv => ?_⟩
  rw [← hlist] at hnone
  have hentry := List.any_eq_false.mp hnone (key, v) (Std.TreeMap.mem_toList_iff_getElem?_eq_some.mpr hv)
  simpa using hentry

/-- What a timeout that is accepted has proven. -/
theorem handleTimeout_evm_ok (hkeccak : T.keccak256 = L.keccak256)
    (hclient : ∀ client ∈ T.consensusClients, ∀ sm, client.stateMachine proof.height.id.stateId = .ok sm →
      sm = evmStateMachine L evmHosts)
    (hmsg : receiptsOf msg = some (requests, slot, proof)) (h : (handleTimeout T msg).run w = (.ok res, w')) :
    (∀ r ∈ requests, ∃ c, hashRequest L.keccak256 r = some c) ∧
      ∃ state ismpAddress map, w.host.stateCommitments proof.height = some state ∧
        evmHosts w.host proof.height.id.stateId = some ismpAddress ∧
        verifyStateProof L ((requests.filterMap (hashRequest L.keccak256)).map (receiptKey L slot)) state proof
          ismpAddress = .ok map ∧
        ∀ (key : Bytes) v, map[key]? = some v → v = none := by
  cases msg with
  | get => cases hmsg
  | post posts timeoutProof =>
    obtain ⟨rfl, rfl, rfl⟩ : posts = requests ∧ requestReceiptsSlot = slot ∧ timeoutProof = proof := by
      simpa [receiptsOf] using hmsg
    obtain ⟨⟨sm, state, values, hsm, hstate, hchecks, hvalues, hnone⟩, -⟩ := handleTimeout_ok_iff.mp h
    refine ⟨fun r hr => ?_, ?_⟩
    · obtain ⟨-, c, hhash, -⟩ := checkRequestTimeout_ok (hchecks r hr)
      exact ⟨c, hkeccak ▸ hhash⟩
    · obtain ⟨ismpAddress, map, haddress, hmap, hempty⟩ := evmLookup_ok hclient hsm hvalues hnone
      exact ⟨state, ismpAddress, map, hstate, haddress, hmap, hempty⟩
  | postResponse responses timeoutProof =>
    obtain ⟨rfl, rfl, rfl⟩ : responses.map PostResponse.request = requests ∧ responseReceiptsSlot = slot ∧
        timeoutProof = proof := by
      simpa [receiptsOf] using hmsg
    obtain ⟨⟨sm, state, values, hsm, hstate, hchecks, hvalues, hnone⟩, -⟩ := handleTimeout_ok_iff.mp h
    refine ⟨fun r hr => ?_, ?_⟩
    · obtain ⟨response, hresponse, rfl⟩ := List.mem_map.mp hr
      obtain ⟨-, c, hhash, -⟩ := checkResponseTimeout_ok (hchecks response hresponse)
      obtain ⟨b, hb, -⟩ := Option.map_eq_some_iff.mp hhash
      obtain ⟨y, hy, -⟩ := Option.bind_eq_some_iff.mp hb
      exact ⟨L.keccak256 y, congrArg (L.keccak256 <$> ·) hy⟩
    · obtain ⟨ismpAddress, map, haddress, hmap, hempty⟩ := evmLookup_ok hclient hsm hvalues hnone
      refine ⟨state, ismpAddress, map, hstate, haddress, ?_, hempty⟩
      have hkeys : reqResReceiptKeys L (.response (responses.map .post)) =
          ((responses.map PostResponse.request).filterMap (hashRequest L.keccak256)).map
            (receiptKey L responseReceiptsSlot) := by
        rw [reqResReceiptKeys, List.filterMap_map, List.filterMap_map]
        rfl
      rw [← hkeys]
      exact hmap

/-- A state proof that is accepted has an entry for every key exactly if the prover lists the contract of
every slot. A timeout that is accepted has every receipt proven empty, and so empty, exactly if it is about
nothing or the prover lists the host contract. -/
theorem evm_state_proof_covers_iff {content : H256 → Bytes → Option Bytes} (hsound : L.trieGet.Sound content) :
    (∀ keys state proof ismpAddress map, verifyStateProof L keys state proof ismpAddress = .ok map →
      ∃ p, L.decodeProof proof.proof = some p ∧
        ((∀ key ∈ keys, ∃ v, map[key]? = some v) ↔
          ∀ key ∈ keys, ∀ contract, contractOf ismpAddress key = some contract → contract ∈ p.storageProof)) ∧
    ∀ (Other : Type) (T : Config Other) (evmHosts : Host Other → StateMachine → Option H160)
      (msg : TimeoutMessage) (requests : List Request) (slot : Nat) (proof : Proof) (w w' : World Other)
      (res : MessageResult), T.keccak256 = L.keccak256 →
      (∀ client ∈ T.consensusClients, ∀ sm, client.stateMachine proof.height.id.stateId = .ok sm →
        sm = evmStateMachine L evmHosts) →
      receiptsOf msg = some (requests, slot, proof) → (handleTimeout T msg).run w = (.ok res, w') →
      ∃ p state ismpAddress, L.decodeProof proof.proof = some p ∧
        w.host.stateCommitments proof.height = some state ∧
        evmHosts w.host proof.height.id.stateId = some ismpAddress ∧
        ((∀ r ∈ requests, ∃ c, hashRequest L.keccak256 r = some c ∧
            SlotShown L p state.stateRoot ismpAddress.bytes (receiptKey L slot c) none ∧
            SlotEmpty L content state.stateRoot ismpAddress.bytes (receiptKey L slot c)) ↔
          requests = [] ∨ ismpAddress.bytes ∈ p.storageProof) := by
  constructor
  · intro keys state proof ismpAddress map h
    obtain ⟨p, hp, -, hentries⟩ := verifyStateProof_ok h
    exact ⟨p, hp, forall₂_congr hentries⟩
  · intro Other T evmHosts msg requests slot proof w w' res hkeccak hclient hmsg h
    obtain ⟨hhashes, state, ismpAddress, map, hstate, haddress, hmap, hempty⟩ :=
      handleTimeout_evm_ok hkeccak hclient hmsg h
    obtain ⟨p, hp, hshown, hentries⟩ := verifyStateProof_ok hmap
    refine ⟨p, state, ismpAddress, hp, hstate, haddress, fun hproven => ?_, fun hlisted r hr => ?_⟩
    · cases requests with
      | nil => exact .inl rfl
      | cons r requests =>
        obtain ⟨c, -, ⟨nodes, account, hnodes, -⟩, -⟩ := hproven r List.mem_cons_self
        refine .inr (Std.TreeMap.mem_iff_isSome_getElem?.mpr ?_)
        rw [hnodes]
        rfl
    · obtain ⟨c, hc⟩ := hhashes r hr
      have hlist : ismpAddress.bytes ∈ p.storageProof := by
        rcases hlisted with rfl | hlist
        · cases hr
        · exact hlist
      have hkey : receiptKey L slot c ∈ (requests.filterMap (hashRequest L.keccak256)).map (receiptKey L slot) :=
        List.mem_map_of_mem (List.mem_filterMap.mpr ⟨r, hr, hc⟩)
      obtain ⟨v, hv⟩ := (hentries _ hkey).mpr fun contract hcontract => by
        rw [contractOf_receiptKey] at hcontract
        exact Option.some.inj hcontract ▸ hlist
      have hslot := (hshown _ v hv).2
      rw [Shown, contractOf_receiptKey, hempty _ v hv] at hslot
      exact ⟨c, hc, hslot, slotEmpty_of_shown hsound hslot⟩

end Timeouts

def sampleIsmpAddress : H160 := BytesN.ofNat 20 0xA5

def sampleAccount : Account := ⟨1, 0, BytesN.ofNat 32 2, BytesN.ofNat 32 3⟩

def deliveredRequest : PostRequest := ⟨.polkadot 3367, .evm 1, 0, asBytes "from", asBytes "to", 20, asBytes "body"⟩

def undeliveredRequest : PostRequest := { deliveredRequest with nonce := 1 }

def deliveredKey : Bytes :=
  (sampleDigest ((sampleCommitmentOf deliveredRequest).bytes ++ beBytes 32 requestReceiptsSlot)).bytes

/-- The host contract has the receipt of the one request. -/
def sampleContent (root : H256) (key : Bytes) : Option Bytes :=
  if root = BytesN.ofNat 32 1 ∧ key = (sampleDigest sampleIsmpAddress.bytes).bytes then some sampleAccount.encode
  else if root = sampleAccount.storageRoot ∧ key = (sampleDigest deliveredKey).bytes then some [1]
  else none

/-- A proof that lists the host contract. -/
def listedProof : Bytes := [4, 4, 1, 4, 80] ++ sampleIsmpAddress.bytes ++ [4, 4, 2]

def sampleLibraries : Libraries where
  keccak256 := sampleDigest
  decodeProof b :=
    if b = [0, 0] then some ⟨[], ∅⟩
    else if b = listedProof then some ⟨[[1]], .ofList [(sampleIsmpAddress.bytes, [([2] : Bytes)])]⟩
    else none
  trieGet nodes root key := if nodes = [] then .error "IncompleteDatabase" else .ok (sampleContent root key)
  decodeAccount b := if b = sampleAccount.encode then some sampleAccount else none

def evmConfig : Config Unit :=
  trackingConfig (.polkadot 3367) (.evm 1) sampleDigest
    (evmStateMachine sampleLibraries fun _ _ => some sampleIsmpAddress)

def evmHeight : StateMachineHeight := ⟨⟨.evm 1, sampleConsensusId⟩, 1⟩

def evmHost : Host Unit :=
  { trackingHost evmHeight ⟨30, none, BytesN.ofNat 32 1⟩ 31000000000 with
    requestCommitments := fun c =>
      if c = sampleCommitmentOf deliveredRequest ∨ c = sampleCommitmentOf undeliveredRequest then
        some ⟨⟨0, 0⟩, ⟨[], 0⟩, false⟩
      else none }

theorem trieGet_sound_sample : sampleLibraries.trieGet.Sound sampleContent := by
  intro nodes root key value h
  simp only [sampleLibraries] at h
  split at h
  · cases h
  · exact (Except.ok.inj h).symm

theorem evmConfig_client (client : ConsensusClient Unit) (hmem : client ∈ evmConfig.consensusClients)
    (sm : StateMachineClient Unit) (hsm : client.stateMachine (.evm 1) = .ok sm) :
    sm = evmStateMachine sampleLibraries fun _ _ => some sampleIsmpAddress := by
  obtain rfl := List.mem_singleton.mp hmem
  exact (Except.ok.inj hsm).symm

theorem evm_state_proof_covers_iff_sample : ∃ p c, sampleLibraries.decodeProof listedProof = some p ∧
    hashRequest sampleDigest (.post undeliveredRequest) = some c ∧
    SlotShown sampleLibraries p (BytesN.ofNat 32 1) sampleIsmpAddress.bytes
      (receiptKey sampleLibraries requestReceiptsSlot c) none ∧
    SlotEmpty sampleLibraries sampleContent (BytesN.ofNat 32 1) sampleIsmpAddress.bytes
      (receiptKey sampleLibraries requestReceiptsSlot c) := by
  obtain ⟨res, hrun⟩ := exists_run_ok (x := handleTimeout evmConfig
    (.post [.post undeliveredRequest] ⟨evmHeight, listedProof⟩)) (s := ⟨evmHost, []⟩) (by decide +kernel)
  obtain ⟨p, state, ismpAddress, hp, hstate, haddress, hiff⟩ :=
    (evm_state_proof_covers_iff trieGet_sound_sample).2 Unit evmConfig (fun _ _ => some sampleIsmpAddress) _ _ _ _ _ _
      res rfl evmConfig_client rfl hrun
  obtain rfl := Option.some.inj hstate
  obtain rfl := Option.some.inj haddress
  have hlisted : sampleIsmpAddress.bytes ∈ p.storageProof := by
    obtain rfl : _ = p := Option.some.inj hp
    decide +kernel
  obtain ⟨c, hc, hshown, hempty⟩ := hiff.mpr (.inr hlisted) (.post undeliveredRequest) List.mem_cons_self
  exact ⟨p, c, hp, hc, hshown, hempty⟩

/-- Two zero bytes, a proof of nothing, are accepted for every slot; and so a request times out whose receipt the host
contract holds. -/
theorem delivered_request_times_out :
    let msg : TimeoutMessage := .post [.post deliveredRequest] ⟨evmHeight, [0, 0]⟩
    sampleLibraries.trieGet.Sound sampleContent ∧
    hashRequest sampleDigest (.post deliveredRequest) = some (sampleCommitmentOf deliveredRequest) ∧
    receiptKey sampleLibraries requestReceiptsSlot (sampleCommitmentOf deliveredRequest) = deliveredKey ∧
    (verifyStateProof sampleLibraries [deliveredKey] ⟨30, none, BytesN.ofNat 32 1⟩ ⟨evmHeight, [0, 0]⟩
      sampleIsmpAddress).toOption.map Std.TreeMap.toList = some [] ∧
    ¬ SlotEmpty sampleLibraries sampleContent (BytesN.ofNat 32 1) sampleIsmpAddress.bytes deliveredKey ∧
    ((handleTimeout evmConfig msg).run ⟨evmHost, []⟩).1.isOk = true ∧
    ((handleTimeout evmConfig msg).run ⟨evmHost, []⟩).2.trace =
      [.timingOut (.request (.post deliveredRequest)), .timedOut (.request (.post deliveredRequest)) true] := by
  refine ⟨trieGet_sound_sample, by decide +kernel, rfl, by decide +kernel, ?_, by decide +kernel, by decide +kernel⟩
  rintro ⟨result, account, -, haccount, hnone⟩
  simp only [sampleLibraries] at haccount
  split at haccount
  · obtain rfl := Option.some.inj haccount
    revert hnone
    decide +kernel
  · cases haccount

end Hyperbridge.Ismp.EvmCommon

import Hyperbridge.HostExecutive.Pallet
import Hyperbridge.Relayer.Accumulate

/-!
# Withdrawals

`withdraw` sends a relayer what it has earned on a chain. The relayer signs its nonce and the chain, and the nonce is
then one higher. The message says whom to pay and how much, and the fees are set to zero.

Whom to pay is the address or key that signed. On EVM chains the message has room for 20 bytes, and a key of 32 bytes
makes the encoder panic. On other chains the amount is silently cut to 128 bits.
-/

namespace Hyperbridge.Relayer

open Lib Exec Ismp
open HostExecutive (HostParam)

inductive Signature where
  | evm (address signature : Bytes)
  | sr25519 (publicKey signature : Bytes)
  | ed25519 (publicKey signature : Bytes)

def Signature.account : Signature → Bytes
  | evm address _ => address
  | sr25519 publicKey _ => publicKey
  | ed25519 publicKey _ => publicKey

def Signature.isEvm : Signature → Bool
  | evm _ _ => true
  | _ => false

structure WithdrawalInputData where
  signature : Signature
  destChain : StateMachine

structure Withdraw where
  address : Bytes
  stateMachine : StateMachine
  amount : U256
  deriving DecidableEq

structure Runtime (Other : Type) extends Config Other where
  secp256k1EcdsaRecover : Bytes → H256 → Option Bytes
  sr25519Verify : Bytes → H256 → Bytes → Bool
  ed25519Verify : Bytes → H256 → Bytes → Bool
  hostParams : Other → StateMachine → Option HostParam

def encodeStateMachine : StateMachine → Bytes
  | .evm id => 0 :: leBytes 4 id.toNat
  | .polkadot id => 1 :: leBytes 4 id.toNat
  | .kusama id => 2 :: leBytes 4 id.toNat
  | .substrate id => 3 :: id.bytes
  | .tendermint id => 4 :: id.bytes

variable {Other : Type} (T : Ismp.Config Other) (K : Runtime Other)

/-- What is signed. -/
def message (nonce : UInt64) (destChain : StateMachine) : H256 :=
  T.keccak256 (leBytes 8 nonce.toNat ++ encodeStateMachine destChain)

def verifyKey (verify : Bytes → H256 → Bytes → Bool) (publicKey signature : Bytes) (msg : H256) :
    Except Error Bytes := do
  errIf (signature.length ≠ 64) .invalidSignature
  errIf (publicKey.length ≠ 32) .invalidPublicKey
  errIf (verify signature msg publicKey = false) .invalidSignature
  .ok publicKey

/-- The address or key that signed. -/
def verifySignature (signature : Signature) (msg : H256) : Except Error Bytes :=
  match signature with
  | .evm address signature => do
      errIf (signature.length ≠ 65) .invalidSignature
      let pubKey ← okOr (K.secp256k1EcdsaRecover signature msg) .invalidSignature
      errIf ((T.keccak256 pubKey).bytes.drop 12 ≠ address) .invalidPublicKey
      .ok address
  | .sr25519 publicKey signature => verifyKey K.sr25519Verify publicKey signature msg
  | .ed25519 publicKey signature => verifyKey K.ed25519Verify publicKey signature msg

def palletHyperbridge : Bytes := asBytes "HYPR-FEE"

/-- Who pays on the chain. -/
def relayerManagerAddress (w : World Other) (destChain : StateMachine) : Except Error Bytes :=
  if destChain.isSubstrate then .ok palletHyperbridge
  else
    match K.hostParams w.host.other destChain with
    | none => .error .missingMangerAddress
    | some (.substrateHostParam _) => .error .mismatchedStateMachine
    | some (.evmHostParam params) => .ok params.hostManager.bytes

def storageOf (w : World Other) : Storage := K.storage.get w.host.other

def authorise (data : WithdrawalInputData) (w : World Other) : Except Error (Bytes × U256 × Bytes) := do
  let nonce := (storageOf K w).nonce data.signature.account data.destChain
  let address ← verifySignature T K data.signature (message T nonce data.destChain)
  let available := (storageOf K w).fees data.destChain address
  errIf (available < (storageOf K w).minimumWithdrawalAmount) .notEnoughBalance
  let manager ← relayerManagerAddress K w data.destChain
  .ok (address, available, manager)

/-- `WithdrawalParams::abi_encode`, of an address that fits. -/
def abiEncode (beneficiary : H160) (amount : U256) (native : Bool) : Bytes :=
  0 :: abiWords [addressWord beneficiary, amount.toWord, boolWord native]

def withdrawRelayerFees (amount : U256) (account : BytesN 32) : Bytes :=
  2 :: (leBytes 16 (amount.toNat % 2 ^ 128) ++ account.bytes)

def fromSlicePanic (length : Nat) : String :=
  "assertion `left == right` failed\n  left: " ++ toString length ++ "\n right: 20"

/-- The body of the message. -/
def withdrawalData (destChain : StateMachine) (address : Bytes) (amount : U256) : Exec (World Other) Error Bytes :=
  if destChain.isEvm then do
    let beneficiary ← expect (fromSlicePanic address.length) (BytesN.ofBytes 20 address)
    pure (abiEncode beneficiary amount false)
  else do
    let account ← ofExcept (okOr (BytesN.ofBytes 32 address) .invalidPublicKey)
    pure (withdrawRelayerFees amount account)

def moduleId : Bytes := asBytes "ISMP-RLYR"

def updateStorage (f : Storage → Storage) (w : World Other) : World Other :=
  (others.comp K.storage).set (f (storageOf K w)) w

/-- The nonce is one higher; the addition wraps. -/
def useNonce (address : Bytes) (destChain : StateMachine) (s : Storage) : Storage :=
  { s with
    nonce := Function.update s.nonce address
      (Function.update (s.nonce address) destChain (s.nonce address destChain + 1)) }

def clearFees (address : Bytes) (destChain : StateMachine) (s : Storage) : Storage :=
  { s with fees := Function.update s.fees destChain (Function.update (s.fees destChain) address 0) }

/-- The nonce is used up first. -/
def payOut (destChain : StateMachine) (address : Bytes) (available : U256) (manager : Bytes) :
    Exec (World Other) Error Unit := do
  modify (updateStorage K (useNonce address destChain))
  let data ← withdrawalData destChain address available
  let post : DispatchPost := ⟨destChain, moduleId, manager, 0, data⟩
  let _ ← mapErr (fun _ => Error.dispatchFailed) (dispatchRequest T (.post post) noFee)
  modify (updateStorage K (clearFees address destChain))

/-- `withdraw`. -/
def withdraw (data : WithdrawalInputData) : Exec (World Other) Error Withdraw := do
  let (address, available, manager) ← query (authorise T K data)
  payOut T K data.destChain address available manager
  pure ⟨address.take 32, data.destChain, available⟩

def payment (dest : StateMachine) : Bytes → Option (Bytes × Nat)
  | [] => none
  | tag :: data =>
      if dest.isEvm then
        if tag = 0 then do
          let beneficiary ← abiWord data 0
          let amount ← abiWord data 1
          some (beneficiary.bytes.drop 12, (U256.ofWord amount).toNat)
        else none
      else if tag = 2 then do
        let account ← BytesN.ofBytes 32 ((data.drop 16).take 32)
        some (account.bytes, leValue (data.take 16))
      else none

variable {T K} {data : WithdrawalInputData} {w w' w₀ : World Other} {address manager : Bytes} {available : U256}

variable {dest : StateMachine}

/-- The host manager reads what was encoded. -/
theorem payment_abiEncode (hdest : dest.isEvm) (beneficiary : H160) (amount : U256) (native : Bool) :
    payment dest (abiEncode beneficiary amount native) = some (beneficiary.bytes, amount.toNat) := by
  have hword (i : Nat) (hi : i < 3) :
      abiWord (abiWords [addressWord beneficiary, amount.toWord, boolWord native]) i =
        [addressWord beneficiary, amount.toWord, boolWord native][i]? := by
    rw [← abiWord_abiWords hi [], List.append_nil]
  have hbytes : (addressWord beneficiary).bytes.drop 12 = beneficiary.bytes := List.drop_left' List.length_replicate
  simp only [payment, abiEncode, if_pos hdest, if_true, hword 0 (by omega), hword 1 (by omega)]
  simp [hbytes, U256.ofWord_toWord]

theorem payment_withdrawRelayerFees (hdest : ¬ dest.isEvm) (amount : U256) (account : BytesN 32) :
    payment dest (withdrawRelayerFees amount account) = some (account.bytes, amount.toNat % 2 ^ 128) := by
  have haccount : BytesN.ofBytes 32 (account.bytes.take 32) = some account := by
    rw [List.take_of_length_le account.length_bytes.le]
    exact BytesN.ofBytes_eq_some.mpr rfl
  simp only [payment, withdrawRelayerFees, if_neg hdest, if_true, drop_leBytes_append, take_leBytes_append, haccount,
    leValue_leBytes]
  simp

theorem verifyKey_ok {verify : Bytes → H256 → Bytes → Bool} {publicKey signature : Bytes} {msg : H256} {a : Bytes}
    (h : verifyKey verify publicKey signature msg = .ok a) : a = publicKey ∧ a.length = 32 := by
  simp only [verifyKey, errIf_bind_ok] at h
  obtain ⟨-, hlength, -, hok⟩ := h
  obtain rfl := Except.ok.inj hok
  exact ⟨rfl, not_not.mp hlength⟩

theorem verifySignature_ok {signature : Signature} {msg : H256} {a : Bytes}
    (h : verifySignature T K signature msg = .ok a) :
    a = signature.account ∧ a.length = if signature.isEvm then 20 else 32 := by
  cases signature with
  | evm address signature =>
    obtain ⟨-, h⟩ := errIf_bind_ok.mp h
    obtain ⟨pubKey, -, h⟩ := except_bind_ok.mp h
    obtain ⟨hsigner, hok⟩ := errIf_bind_ok.mp h
    obtain rfl := Except.ok.inj hok
    refine ⟨rfl, ?_⟩
    rw [← not_not.mp hsigner, List.length_drop, BytesN.length_bytes]
    rfl
  | sr25519 publicKey signature => exact verifyKey_ok h
  | ed25519 publicKey signature => exact verifyKey_ok h

/-- The checks, taken apart. -/
theorem authorise_ok (h : authorise T K data w = .ok (address, available, manager)) :
    verifySignature T K data.signature
        (message T ((storageOf K w).nonce data.signature.account data.destChain) data.destChain) = .ok address ∧
      available = (storageOf K w).fees data.destChain address := by
  simp only [authorise, except_bind_ok] at h
  obtain ⟨address', hsigned, _, -, manager', -, hok⟩ := h
  obtain ⟨rfl, hpair⟩ := Prod.mk.inj (Except.ok.inj hok)
  obtain ⟨rfl, -⟩ := Prod.mk.inj hpair
  exact ⟨hsigned, rfl⟩

/-- The request that is sent. -/
def withdrawal (T : Ismp.Config Other) (w : World Other) (destChain : StateMachine) (manager body : Bytes) :
    PostRequest where
  source := T.hostStateMachine
  dest := destChain
  nonce := w.host.nonce
  fromModule := moduleId
  toModule := manager
  timeoutTimestamp := 0
  body := body

def paidAmount (dest : StateMachine) (amount : U256) : Nat :=
  if dest.isEvm then amount.toNat else amount.toNat % 2 ^ 128

theorem withdrawalData_ok {body : Bytes} (h : (withdrawalData dest address available).run w = (.ok body, w')) :
    w' = w ∧ payment dest body = some (address, paidAmount dest available) := by
  unfold withdrawalData at h
  split at h
  · rename_i hdest
    obtain ⟨beneficiary, hbeneficiary, h⟩ := expect_bind_ok.mp h
    obtain ⟨rfl, rfl⟩ := pure_ok.mp h
    rw [payment_abiEncode hdest, paidAmount, if_pos hdest, BytesN.ofBytes_eq_some.mp hbeneficiary]
    exact ⟨rfl, rfl⟩
  · rename_i hdest
    obtain ⟨account, haccount, h⟩ := ofExcept_bind_ok.mp h
    obtain ⟨rfl, rfl⟩ := pure_ok.mp h
    rw [payment_withdrawRelayerFees hdest, paidAmount, if_neg hdest, BytesN.ofBytes_eq_some.mp (okOr_eq_ok.mp haccount)]
    exact ⟨rfl, rfl⟩

theorem panics_withdrawalData :
    Panics (withdrawalData dest address available : Exec (World Other) Error Bytes) w ↔
      dest.isEvm ∧ address.length ≠ 20 := by
  unfold withdrawalData
  by_cases hdest : dest.isEvm
  · rw [if_pos hdest, panics_bind]
    simp [hdest, BytesN.ofBytes]
  · rw [if_neg hdest, panics_bind]
    simp [hdest]

theorem exists_withdrawalData :
    (∃ body v, (withdrawalData dest address available : Exec (World Other) Error Bytes).run w = (.ok body, v)) ↔
      address.length = if dest.isEvm then 20 else 32 := by
  unfold withdrawalData
  by_cases hdest : dest.isEvm
  · simp only [if_pos hdest, expect_bind_ok, ← BytesN.exists_ofBytes]
    constructor
    · rintro ⟨body, v, beneficiary, hbeneficiary, -⟩
      exact ⟨beneficiary, hbeneficiary⟩
    · rintro ⟨beneficiary, hbeneficiary⟩
      exact ⟨_, _, beneficiary, hbeneficiary, rfl⟩
  · simp only [if_neg hdest, ofExcept_bind_ok, okOr_eq_ok, ← BytesN.exists_ofBytes]
    constructor
    · rintro ⟨body, v, account, haccount, -⟩
      exact ⟨account, haccount⟩
    · rintro ⟨account, haccount⟩
      exact ⟨_, _, account, haccount, rfl⟩

/-- The encoder panics on a key, on EVM chains. -/
theorem panics_payOut :
    Panics (payOut T K dest address available manager) w ↔ dest.isEvm ∧ address.length ≠ 20 ∨
      address.length = (if dest.isEvm then 20 else 32) ∧ (T.hostStateMachine.toText = none ∨ dest.toText = none) := by
  have hsend (body : Bytes) (v : World Other) :
      Panics (mapErr (fun _ => Error.dispatchFailed)
        (dispatchRequest T (.post ⟨dest, moduleId, manager, 0, body⟩) noFee) >>=
        fun _ => modify (updateStorage K (clearFees address dest))) v ↔
        T.hostStateMachine.toText = none ∨ dest.toText = none := by
    rw [panics_bind]
    simp [panics_dispatchRequest]
  rw [payOut, panics_modify_bind, panics_bind, panics_withdrawalData]
  simp only [hsend, exists_and_right]
  rw [exists_withdrawalData]

theorem panics_withdraw : Panics (withdraw T K data) w ↔
    ∃ address available manager, authorise T K data w = .ok (address, available, manager) ∧
      (data.destChain.isEvm ∧ ¬ data.signature.isEvm ∨ data.destChain.isEvm = data.signature.isEvm ∧
        (T.hostStateMachine.toText = none ∨ data.destChain.toText = none)) := by
  rw [withdraw, panics_query_bind]
  have hpay {address : Bytes} {available : U256} {manager : Bytes}
      (hchecks : authorise T K data w = .ok (address, available, manager)) :
      Panics (payOut T K data.destChain address available manager >>= fun _ =>
        (pure ⟨address.take 32, data.destChain, available⟩ : Exec (World Other) Error Withdraw)) w ↔
      (data.destChain.isEvm ∧ ¬ data.signature.isEvm ∨ data.destChain.isEvm = data.signature.isEvm ∧
        (T.hostStateMachine.toText = none ∨ data.destChain.toText = none)) := by
    obtain ⟨hsigned, -⟩ := authorise_ok hchecks
    obtain ⟨-, hlength⟩ := verifySignature_ok hsigned
    rw [panics_bind, panics_payOut, hlength]
    cases data.destChain.isEvm <;> cases data.signature.isEvm <;> simp
  constructor
  · rintro ⟨⟨address, available, manager⟩, hchecks, hpanics⟩
    exact ⟨address, available, manager, hchecks, (hpay hchecks).mp hpanics⟩
  · rintro ⟨address, available, manager, hchecks, hcases⟩
    exact ⟨(address, available, manager), hchecks, (hpay hchecks).mpr hcases⟩

def Apart (T : Ismp.Config Other) (K : Runtime Other) : Prop :=
  ∀ leaf other, K.storage.get (T.mmrPush leaf other).2 = K.storage.get other

theorem storageOf_updateStorage (f : Storage → Storage) (w : World Other) :
    storageOf K (updateStorage K f w) = f (storageOf K w) := by
  show K.storage.get (K.storage.set _ _) = _
  rw [Lens.get_set]

variable {event : Withdraw}

theorem withdraw_ok (hapart : Apart T K) (h : (withdraw T K data).run w = (.ok event, w')) :
    ∃ manager body c, authorise T K data w =
        .ok (data.signature.account, (storageOf K w).fees data.destChain data.signature.account, manager) ∧
      payment data.destChain body = some (data.signature.account,
        paidAmount data.destChain ((storageOf K w).fees data.destChain data.signature.account)) ∧
      hashRequest T.keccak256 (.post (withdrawal T w data.destChain manager body)) = some c ∧
      w.host.requestCommitments c = none ∧ (w'.host.requestCommitments c).isSome ∧
      storageOf K w' = clearFees data.signature.account data.destChain
        (useNonce data.signature.account data.destChain (storageOf K w)) := by
  obtain ⟨⟨address, available, manager⟩, hchecks, hrun⟩ := query_bind_ok.mp h
  obtain ⟨hsigned, rfl⟩ := authorise_ok hchecks
  obtain ⟨rfl, -⟩ := verifySignature_ok hsigned
  obtain ⟨_, w₁, hpay, hrun⟩ := bind_ok.mp hrun
  obtain ⟨-, rfl⟩ := Prod.mk.inj hrun
  rw [payOut, modify_bind_run] at hpay
  obtain ⟨body, w₂, hbody, hpay⟩ := bind_ok.mp hpay
  obtain ⟨rfl, hpayment⟩ := withdrawalData_ok hbody
  obtain ⟨c, w₃, hsend, hpay⟩ := bind_ok.mp hpay
  obtain ⟨-, rfl⟩ := Prod.mk.inj hpay
  have hcommit : (commitRequest T (.post (withdrawal T w data.destChain manager body)) noFee).run _ = (.ok c, w₃) :=
    mapErr_ok.mp hsend
  obtain ⟨hhash, hnew, rfl⟩ := commitRequest_ok.mp hcommit
  refine ⟨manager, body, c, hchecks, hpayment, hhash, hnew, ?_, ?_⟩
  · show (Function.update w.host.requestCommitments c _ c).isSome
    rw [Function.update_self]
    rfl
  · rw [storageOf_updateStorage]
    congr 1
    show K.storage.get (T.mmrPush _ _).2 = _
    rw [hapart]
    exact storageOf_updateStorage _ _

/-- The signature is good under the nonce. -/
def Signed (T : Ismp.Config Other) (K : Runtime Other) (data : WithdrawalInputData) (nonce : UInt64) : Prop :=
  ∃ address, verifySignature T K data.signature (message T nonce data.destChain) = .ok address

/-- Successful withdrawals; in between no nonce changes. -/
inductive Withdrawals (T : Ismp.Config Other) (K : Runtime Other) (w₀ : World Other) :
    List WithdrawalInputData → World Other → Prop
  | start : Withdrawals T K w₀ [] w₀
  | call {log : List WithdrawalInputData} {w w' : World Other} {data : WithdrawalInputData} {event : Withdraw}
      (run : Withdrawals T K w₀ log w) (hcall : (withdraw T K data).run w = (.ok event, w')) :
      Withdrawals T K w₀ (log ++ [data]) w'
  | elsewhere {log : List WithdrawalInputData} {w w' : World Other} (run : Withdrawals T K w₀ log w)
      (hstep : (storageOf K w').nonce = (storageOf K w).nonce) : Withdrawals T K w₀ log w'

/-- How often the account has withdrawn. -/
def uses (account : Bytes) (chain : StateMachine) (log : List WithdrawalInputData) : Nat :=
  log.countP fun data => data.signature.account = account ∧ data.destChain = chain

theorem uses_append (account : Bytes) (chain : StateMachine) (log : List WithdrawalInputData)
    (data : WithdrawalInputData) :
    uses account chain (log ++ [data]) =
      uses account chain log + if data.signature.account = account ∧ data.destChain = chain then 1 else 0 := by
  rw [uses, List.countP_append, List.countP_singleton, uses]
  simp

theorem nonce_useNonce (address account : Bytes) (destChain chain : StateMachine) (s : Storage) :
    (useNonce address destChain s).nonce account chain =
      if address = account ∧ destChain = chain then s.nonce account chain + 1 else s.nonce account chain := by
  by_cases haccount : address = account
  · subst haccount
    by_cases hchain : destChain = chain
    · subst hchain
      simp [useNonce]
    · simp [useNonce, hchain, Function.update_of_ne (Ne.symm hchain)]
  · simp [useNonce, haccount, Function.update_of_ne (Ne.symm haccount)]

theorem withdraw_nonce (hapart : Apart T K) (h : (withdraw T K data).run w = (.ok event, w')) :
    Signed T K data ((storageOf K w).nonce data.signature.account data.destChain) ∧ ∀ account chain,
      (storageOf K w').nonce account chain = (storageOf K w).nonce account chain +
        if data.signature.account = account ∧ data.destChain = chain then 1 else 0 := by
  obtain ⟨manager, body, c, hchecks, -, -, -, -, hstorage⟩ := withdraw_ok hapart h
  obtain ⟨hsigned, -⟩ := authorise_ok hchecks
  refine ⟨⟨_, hsigned⟩, fun account chain => ?_⟩
  rw [hstorage, show (clearFees data.signature.account data.destChain (useNonce data.signature.account data.destChain
    (storageOf K w))).nonce = (useNonce data.signature.account data.destChain (storageOf K w)).nonce from rfl,
    nonce_useNonce]
  split
  · rfl
  · rw [UInt64.add_zero]

/-- The nonce counts the withdrawals. -/
theorem Withdrawals.nonce (hapart : Apart T K) {log : List WithdrawalInputData} (hrun : Withdrawals T K w₀ log w) :
    (∀ account chain, (storageOf K w).nonce account chain =
      (storageOf K w₀).nonce account chain + UInt64.ofNat (uses account chain log)) ∧
    ∀ data ∈ log, ∃ k < uses data.signature.account data.destChain log,
      Signed T K data ((storageOf K w₀).nonce data.signature.account data.destChain + UInt64.ofNat k) := by
  induction hrun with
  | start =>
    refine ⟨fun account chain => ?_, by simp⟩
    rw [uses, List.countP_nil]
    exact (UInt64.add_zero _).symm
  | @call log w w' last _ _ hcall ih =>
    obtain ⟨hnonce, hlog⟩ := ih
    obtain ⟨hsigned, hstep⟩ := withdraw_nonce hapart hcall
    refine ⟨fun account chain => ?_, fun data hdata => ?_⟩
    · rw [hstep, hnonce, uses_append, UInt64.ofNat_add, ← UInt64.add_assoc]
      congr 1
      split <;> rfl
    · rw [uses_append]
      rcases List.mem_append.mp hdata with hmem | hmem
      · obtain ⟨k, hk, hk'⟩ := hlog data hmem
        exact ⟨k, by omega, hk'⟩
      · obtain rfl := List.mem_singleton.mp hmem
        rw [hnonce] at hsigned
        exact ⟨_, by simp, hsigned⟩
  | elsewhere _ hstep ih =>
    refine ⟨fun account chain => ?_, ih.2⟩
    rw [hstep]
    exact ih.1 account chain

/-- A signature under one nonce is used once. -/
theorem Withdrawals.not_again (hapart : Apart T K) {log : List WithdrawalInputData} (hrun : Withdrawals T K w₀ log w)
    (hlog : log.length < 2 ^ 64) (hdata : data ∈ log)
    (hone : ∀ n n', Signed T K data n → Signed T K data n' → n = n') :
    (withdraw T K data).run w ≠ (.ok event, w') := by
  intro hcall
  obtain ⟨hnonce, hsignedAt⟩ := hrun.nonce hapart
  obtain ⟨k, hk, hearlier⟩ := hsignedAt data hdata
  obtain ⟨hnow, -⟩ := withdraw_nonce hapart hcall
  rw [hnonce] at hnow
  have huses : uses data.signature.account data.destChain log ≤ log.length := List.countP_le_length
  have hsame := congrArg UInt64.toNat ((UInt64.add_right_inj _).mp (hone _ _ hearlier hnow))
  rw [UInt64.toNat_ofNat', UInt64.toNat_ofNat', Nat.mod_eq_of_lt (by omega), Nat.mod_eq_of_lt (by omega)] at hsame
  omega

theorem fees_clearFees (address a : Bytes) (destChain chain : StateMachine) (s : Storage) :
    (clearFees address destChain s).fees chain a = if chain = destChain ∧ a = address then 0 else s.fees chain a := by
  by_cases hchain : chain = destChain
  · subst hchain
    by_cases haddress : a = address
    · subst haddress
      simp [clearFees]
    · simp [clearFees, haddress]
  · simp [clearFees, hchain]

/-- When a withdrawal panics; that one that succeeds commits to a message that pays exactly the amount removed if and
only if it goes to an EVM chain or the amount fits in 128 bits; and that its signature makes no second one. -/
theorem withdrawal_exact_iff (hapart : Apart T K) :
    (∀ data w, Panics (withdraw T K data) w ↔
      ∃ address available manager, authorise T K data w = .ok (address, available, manager) ∧
        (data.destChain.isEvm ∧ ¬ data.signature.isEvm ∨ data.destChain.isEvm = data.signature.isEvm ∧
          (T.hostStateMachine.toText = none ∨ data.destChain.toText = none))) ∧
    (∀ data w event w', (withdraw T K data).run w = (.ok event, w') → (∀ chain a, (storageOf K w').fees chain a =
        if chain = data.destChain ∧ a = data.signature.account then 0 else (storageOf K w).fees chain a) ∧
      ∃ request c paid, hashRequest T.keccak256 (.post request) = some c ∧ w.host.requestCommitments c = none ∧
        (w'.host.requestCommitments c).isSome ∧ request.dest = data.destChain ∧
        payment data.destChain request.body = some (data.signature.account, paid) ∧
        (paid = ((storageOf K w).fees data.destChain data.signature.account).toNat ↔
          data.destChain.isEvm ∨ ((storageOf K w).fees data.destChain data.signature.account).toNat < 2 ^ 128)) ∧
    (∀ w₀ log w data, Withdrawals T K w₀ log w → log.length < 2 ^ 64 → data ∈ log →
      (∀ n n', Signed T K data n → Signed T K data n' → n = n') →
      ∀ event w', (withdraw T K data).run w ≠ (.ok event, w')) := by
  refine ⟨fun data w => panics_withdraw, fun data w event w' hcall => ?_,
    fun w₀ log w data hrun hlog hdata hone event w' =>
    hrun.not_again hapart hlog hdata hone⟩
  obtain ⟨manager, body, c, -, hpayment, hhash, hnew, hsome, hstorage⟩ := withdraw_ok hapart hcall
  refine ⟨fun chain a => ?_, _, c, _, hhash, hnew, hsome, rfl, hpayment, ?_⟩
  · rw [hstorage, fees_clearFees]
    rfl
  · rw [paidAmount]
    by_cases hdest : data.destChain.isEvm
    · simp [hdest]
    · rw [if_neg hdest]
      have hmod := Nat.mod_lt ((storageOf K w).fees data.destChain data.signature.account).toNat (Nat.two_pow_pos 128)
      constructor
      · intro hsame
        exact .inr (hsame ▸ hmod)
      · rintro (hevm | hlt)
        · exact absurd hevm hdest
        · exact Nat.mod_eq_of_lt hlt

/-- A digest that keeps the first bytes. -/
def frontDigest (b : Bytes) : H256 := ⟨(b ++ List.replicate 32 0).take 32, by simp⟩

def withdrawConfig : Ismp.Config Storage := { relayerConfig with keccak256 := frontDigest }

def withdrawRuntime : Runtime Storage :=
  { sampleRelayer with
    secp256k1EcdsaRecover := fun _ _ => none
    sr25519Verify := fun signature msg _ => decide (signature.take 32 = msg.bytes)
    ed25519Verify := fun _ _ _ => false
    hostParams := fun _ chain => if chain = .evm 1 then some (.evmHostParam HostExecutive.startParams) else none }

theorem apart_sample : Apart withdrawConfig withdrawRuntime := fun _ _ => rfl

def relayerKey : Bytes := List.replicate 32 7

def firstWithdrawal (chain : StateMachine) : WithdrawalInputData where
  signature := .sr25519 relayerKey ((message withdrawConfig 0 chain).bytes ++ List.replicate 32 0)
  destChain := chain

def withdrawWorld (amount : U256) : World Storage :=
  ⟨{ relayerWorld.host with
      other := ⟨fun _ a => if a = relayerKey then amount else 0, fun _ _ => 0, 10000000000000000000⟩ }, []⟩

theorem frontDigest_message {n n' : UInt64} {chain : StateMachine}
    (h : message withdrawConfig n chain = message withdrawConfig n' chain) : n = n' := by
  have hbytes := congrArg (fun d : H256 => d.bytes.take 8) h
  have hfront (k : UInt64) : (message withdrawConfig k chain).bytes.take 8 = leBytes 8 k.toNat := by
    show (((leBytes 8 k.toNat ++ encodeStateMachine chain) ++ List.replicate 32 0).take 32).take 8 = _
    rw [List.take_take, List.append_assoc]
    exact take_leBytes_append 8 _ _
  simp only [hfront, leBytes_inj] at hbytes
  have hlt := n.toNat_lt
  have hlt' := n'.toNat_lt
  rw [Nat.mod_eq_of_lt (by omega), Nat.mod_eq_of_lt (by omega)] at hbytes
  exact UInt64.toNat_inj.mp hbytes

theorem signed_once (chain : StateMachine) (n n' : UInt64)
    (h : Signed withdrawConfig withdrawRuntime (firstWithdrawal chain) n)
    (h' : Signed withdrawConfig withdrawRuntime (firstWithdrawal chain) n') : n = n' := by
  have hsigned {k : UInt64} (hk : Signed withdrawConfig withdrawRuntime (firstWithdrawal chain) k) :
      (message withdrawConfig 0 chain).bytes = (message withdrawConfig k chain).bytes := by
    obtain ⟨address, hok⟩ := hk
    obtain ⟨-, hok⟩ := errIf_bind_ok.mp hok
    obtain ⟨-, hok⟩ := errIf_bind_ok.mp hok
    obtain ⟨hverify, -⟩ := errIf_bind_ok.mp hok
    have htake : ((message withdrawConfig 0 chain).bytes ++ List.replicate 32 0).take 32 =
        (message withdrawConfig k chain).bytes := by
      simpa [firstWithdrawal, withdrawRuntime] using hverify
    rwa [List.take_left' (BytesN.length_bytes _)] at htake
  exact frontDigest_message (BytesN.bytes_injective ((hsigned h).symm.trans (hsigned h')))

def withdrawnWorld : World Storage :=
  ((withdraw withdrawConfig withdrawRuntime (firstWithdrawal (.polkadot 2000))).run
    (withdrawWorld 20000000000000000000)).2

theorem withdrawal_exact_iff_sample :
    (∃ request c, hashRequest withdrawConfig.keccak256 (.post request) = some c ∧
      (withdrawnWorld.host.requestCommitments c).isSome ∧
      payment (.polkadot 2000) request.body = some (relayerKey, 20000000000000000000)) ∧
    ∀ event w', (withdraw withdrawConfig withdrawRuntime (firstWithdrawal (.polkadot 2000))).run withdrawnWorld ≠
      (.ok event, w') := by
  have hcall : ((withdraw withdrawConfig withdrawRuntime (firstWithdrawal (.polkadot 2000))).run
      (withdrawWorld 20000000000000000000)).1 = .ok ⟨relayerKey, .polkadot 2000, 20000000000000000000⟩ := by
        decide +kernel
  have hrun : (withdraw withdrawConfig withdrawRuntime (firstWithdrawal (.polkadot 2000))).run
      (withdrawWorld 20000000000000000000) = (.ok _, withdrawnWorld) := run_of_fst_ok hcall
  obtain ⟨-, hpaid, hagain⟩ := withdrawal_exact_iff apart_sample
  obtain ⟨-, request, c, paid, hhash, -, hsome, -, hpayment, hexact⟩ := hpaid _ _ _ _ hrun
  have hamount : ((storageOf withdrawRuntime (withdrawWorld 20000000000000000000)).fees (.polkadot 2000)
      relayerKey).toNat = 20000000000000000000 := by decide +kernel
  have hfull : paid = 20000000000000000000 := (hexact.mpr (.inr (hamount ▸ by decide))).trans hamount
  have hlog : Withdrawals withdrawConfig withdrawRuntime (withdrawWorld 20000000000000000000)
      ([] ++ [firstWithdrawal (.polkadot 2000)]) withdrawnWorld := .call .start hrun
  rw [List.nil_append] at hlog
  exact ⟨⟨request, c, hhash, hsome, hfull ▸ hpayment⟩,
    hagain _ _ _ _ hlog (by simp) List.mem_cons_self (signed_once _)⟩

def cutRequest : PostRequest :=
  withdrawal withdrawConfig (withdrawWorld (2 ^ 128 + 5)) (.polkadot 2000) palletHyperbridge
    (withdrawRelayerFees (2 ^ 128 + 5) ⟨relayerKey, List.length_replicate⟩)

def cutCommitment : H256 := frontDigest ((Request.post cutRequest).encode.getD [])

/-- On an EVM chain the same withdrawal panics. On a Substrate chain an amount of more than 128 bits is removed in full,
and the message pays the low bits. -/
theorem withdrawal_panics_or_cut :
    ((withdraw withdrawConfig withdrawRuntime (firstWithdrawal (.evm 1))).run (withdrawWorld 20000000000000000000)).1 =
      .panic (fromSlicePanic 32) ∧
    ∃ event w', (withdraw withdrawConfig withdrawRuntime (firstWithdrawal (.polkadot 2000))).run
        (withdrawWorld (2 ^ 128 + 5)) = (.ok event, w') ∧
      hashRequest withdrawConfig.keccak256 (.post cutRequest) = some cutCommitment ∧
      (w'.host.requestCommitments cutCommitment).isSome ∧
      payment (.polkadot 2000) cutRequest.body = some (relayerKey, 5) ∧
      ((storageOf withdrawRuntime (withdrawWorld (2 ^ 128 + 5))).fees (.polkadot 2000) relayerKey).toNat = 2 ^ 128 + 5 ∧
      (storageOf withdrawRuntime w').fees (.polkadot 2000) relayerKey = 0 := by
  have hcall : ((withdraw withdrawConfig withdrawRuntime (firstWithdrawal (.polkadot 2000))).run
      (withdrawWorld (2 ^ 128 + 5))).1 = .ok ⟨relayerKey, .polkadot 2000, 2 ^ 128 + 5⟩ := by decide +kernel
  exact ⟨by decide +kernel, _, _, run_of_fst_ok hcall, by decide +kernel, by decide +kernel, by decide +kernel,
    by decide +kernel, by decide +kernel⟩

end Hyperbridge.Relayer
